import ServiceDispatch.Text.Ascii
import ServiceDispatch.Text.Blank
import ServiceDispatch.Text.Cut
import ServiceDispatch.Text.Hex
import ServiceDispatch.Text.Utf8
import ServiceDispatch.Text.Quoted
import ServiceDispatch.Number.Integer
import ServiceDispatch.Number.Floating
import ServiceDispatch.Number.Shortest
import ServiceDispatch.Data.Table
import ServiceDispatch.Json.Reader
import ServiceDispatch.Json.Printer
import ServiceDispatch.Json.Encode
import ServiceDispatch.UrlEncoded
import ServiceDispatch.Http.Request
import ServiceDispatch.Http.Response
import ServiceDispatch.Media.Table
import ServiceDispatch.Form.Extract
import ServiceDispatch.Value.Arguments
import ServiceDispatch.Convert
import ServiceDispatch.Failure.Mapper
import ServiceDispatch.Config
import ServiceDispatch.Model
import ServiceDispatch.Registry.Services
import ServiceDispatch.Dispatch
import ServiceDispatch.Report
import ServiceDispatch.Proofs.Form.HeaderParams
import ServiceDispatch.Proofs.Text.Utf8
import ServiceDispatch.Proofs.Data.Except
import ServiceDispatch.Proofs.Form.PartLayout
import ServiceDispatch.Proofs.Form.WrittenForm
import ServiceDispatch.Proofs.Failure.Lineage
import ServiceDispatch.Proofs.Failure.MapperTable
import ServiceDispatch.Proofs.Form.Scratch
import ServiceDispatch.Proofs.Form.Cleanup
import ServiceDispatch.Proofs.Form.ScratchHistory
import ServiceDispatch.Proofs.Form.FileName
import ServiceDispatch.Proofs.Form.UploadNames
import ServiceDispatch.Proofs.Form.Extract
import ServiceDispatch.Proofs.Value.Types
import ServiceDispatch.Proofs.Value.Files
import ServiceDispatch.Proofs.Binding.Uploads
import ServiceDispatch.Proofs.Dispatch.Uploads
import ServiceDispatch.Proofs.Binding.Types
import ServiceDispatch.Proofs.Data.Table
import ServiceDispatch.Proofs.Http.Header
import ServiceDispatch.Proofs.Dispatch.Reply
import ServiceDispatch.Proofs.Registry.Coherent
import ServiceDispatch.Proofs.Dispatch.Stages
import ServiceDispatch.Proofs.Registry.HookRuns
import ServiceDispatch.Proofs.Registry.Stays
import ServiceDispatch.Proofs.Registry.Deployments
import ServiceDispatch.Proofs.Registry.Guest
import ServiceDispatch.Proofs.Dispatch.FilterKeys
import ServiceDispatch.Proofs.Form.Faults
import ServiceDispatch.Proofs.Binding.Faults
import ServiceDispatch.Proofs.Form.Limits
import ServiceDispatch.Proofs.Form.Segments
import ServiceDispatch.Proofs.Binding.Independence
import ServiceDispatch.Proofs.Binding.Defaults
import ServiceDispatch.Proofs.Form.Fields
import ServiceDispatch.Proofs.Binding.FormFields
import ServiceDispatch.Proofs.Failure.Canonical
import ServiceDispatch.Proofs.Form.Cursor
import ServiceDispatch.Proofs.Form.Reading
import ServiceDispatch.Proofs.Binding.MixedFields
import ServiceDispatch.Proofs.Registry.Shutdown
import ServiceDispatch.Proofs.Registry.Batches
import ServiceDispatch.Proofs.Data.FirstCome
import ServiceDispatch.Proofs.Registry.Registrations
import ServiceDispatch.Proofs.Binding.UrlEncodedFields
import ServiceDispatch.Proofs.Form.UrlEncoded
import ServiceDispatch.Proofs.Media.FormValues
import ServiceDispatch.Proofs.Media.Selection
import ServiceDispatch.Proofs.Http.Cookie
import ServiceDispatch.Proofs.Binding.Cookies
import ServiceDispatch.Proofs.Http.ChunkStream
import ServiceDispatch.Proofs.Dispatch.Streaming
import ServiceDispatch.Proofs.Binding.StoredOnce
import ServiceDispatch.Proofs.Form.Preamble
import ServiceDispatch.Proofs.Failure.Depth
import ServiceDispatch.Proofs.Value.Arguments
import ServiceDispatch.Proofs.Form.Relocation
import ServiceDispatch.Proofs.Binding.Relocation
import ServiceDispatch.Proofs.Binding.Buffers
import ServiceDispatch.Proofs.Failure.Specialization
import ServiceDispatch.Proofs.Context
import ServiceDispatch.Proofs.Form.ContentType
