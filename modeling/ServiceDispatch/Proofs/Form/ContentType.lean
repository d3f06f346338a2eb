import ServiceDispatch.Proofs.Form.PartLayout

/-!
# The content type of a part

The headers of a part may repeat a name. `Part.header?` gives the first of the values, whereas for
the part's own content type the last one counts (`contentTypeOf_eq`). So the two agree unless a part
declares one content type first and another one last.
-/

namespace ServiceDispatch

/-- The values of all headers with the name, in order. -/
def Part.headerValues (p : Part) (name : String) : List String :=
  (p.headers.filter fun h => Text.sameIgnoringCase h.1 name).map Prod.snd

theorem Part.header?_eq (p : Part) (name : String) :
    p.header? name = (p.headerValues name).head? := by
  rw [header?, headerValues, List.head?_map, List.head?_filter]

namespace Multipart

theorem lastValue?_eq (key : String) (entries : List (String × String)) :
    lastValue? key entries =
      ((entries.filter fun e => Text.sameIgnoringCase e.1 key).map Prod.snd).getLast? := by
  rw [lastValue?, ← List.head?_filter, List.filter_reverse, List.head?_reverse, List.getLast?_map]

theorem contentTypeOf_eq (p : Part) : contentTypeOf p.headers =
    (p.headerValues "content-type").getLast?.elim MediaType.plainText MediaType.essence := by
  rw [contentTypeOf, lastValue?_eq, ← Part.headerValues]
  cases (p.headerValues "content-type").getLast? <;> rfl

end Multipart

namespace MultipartForm

open Multipart

/-- The content type of a part is the essence of the last value that its headers declare, plain text
if they declare none. It is that of the value that is looked up, which is the first one, exactly if
the first and the last value have the same essence. -/
theorem contentType_of_parse {f : MultipartForm} {parts : List Part} (h : f.parse = .ok parts) :
    ∀ p ∈ parts,
      let values := p.headerValues "content-type"
      p.contentType = values.getLast?.elim MediaType.plainText MediaType.essence ∧
        p.header? "content-type" = values.head? ∧
        (p.contentType =
            (p.header? "content-type").elim MediaType.plainText MediaType.essence ↔
          ∀ first ∈ values.head?, ∀ last ∈ values.getLast?,
            MediaType.essence first = MediaType.essence last) := by
  intro p hp values
  obtain ⟨ts, -, -, hall⟩ := parse_eq_ok_iff.1 h
  obtain ⟨t, -, hdescribes⟩ := exists_of_forall₂ hall hp
  have htype : p.contentType = values.getLast?.elim MediaType.plainText MediaType.essence :=
    hdescribes.contentType.trans (contentTypeOf_eq p)
  have hheader : p.header? "content-type" = values.head? := p.header?_eq "content-type"
  refine ⟨htype, hheader, ?_⟩
  rw [htype, hheader]
  cases hvalues : values with
  | nil => simp
  | cons first rest => simp [List.getLast?_cons, eq_comm]

/-- A body of one field, which declares the content types. -/
def declaring (contentTypes : List String) : MultipartForm where
  boundary := "b"
  limit := 1
  body :=
    let lines := contentTypes.map fun value => "Content-Type: " ++ value ++ "\r\n"
    Utf8.encode ("--b\r\nContent-Disposition: form-data; name=\"n\"\r\n" ++ String.join lines ++
      "\r\nhi\r\n--b--")

/-- The field, of the content type. -/
def declaringPart (contentTypes : List String) (contentType : String) : Part where
  name := "n"
  fileName := none
  contentType := contentType
  headers := ("Content-Disposition", "form-data; name=\"n\"") ::
    contentTypes.map fun value => ("Content-Type", value)
  data := Utf8.encode "hi"

theorem contentType_of_parse_same_essence :
    let types := ["A/B; c=d", "a/b"]
    let p := declaringPart types "a/b"
    (declaring types).parse = .ok [p] ∧
      p.contentType =
        (p.header? "content-type").elim MediaType.plainText MediaType.essence := by
  intro types p
  have hparse : (declaring types).parse = .ok [p] := by decide +kernel
  obtain ⟨-, -, hiff⟩ := contentType_of_parse hparse p (List.mem_singleton.2 rfl)
  exact ⟨hparse, hiff.2 (by decide)⟩

/-- By its content type the field is an upload, by the header that is looked up a text. -/
theorem parse_declared_twice :
    let types := [MediaType.plainText, MediaType.octetStream]
    let p := declaringPart types MediaType.octetStream
    (declaring types).parse = .ok [p] ∧ p.isFile = true ∧
      p.header? "content-type" = some MediaType.plainText ∧
      p.contentType ≠
        (p.header? "content-type").elim MediaType.plainText MediaType.essence := by
  decide +kernel

end MultipartForm

end ServiceDispatch
