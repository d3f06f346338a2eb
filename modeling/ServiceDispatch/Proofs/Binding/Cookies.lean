import ServiceDispatch.Proofs.Binding.Defaults
import ServiceDispatch.Proofs.Http.Cookie

/-!
# Parameters for cookies

A parameter for a cookie goes by the first cookie header of a request, whatever else the request
has. Where that header is written as segments between semicolons, the parameter is bound to the
value of the first pair with its name, and if no pair has it, to what is bound for a missing value.
-/

namespace ServiceDispatch.Binding

variable {σ : Type} {sc : Scope σ} {d : Disk} {p : Parameter} {key : String} {c : Converter}

theorem cookieHeader?_eq_some {r : Request} {segments : List Cookie.Segment}
    (h : r.headers.first? "cookie" = some (Utf8.encode (Cookie.header segments))) :
    r.cookieHeader? = some (Cookie.header segments) := by
  rw [Request.cookieHeader?, Request.header?, Headers.text?, h, Option.bind_some]
  exact Header.text?_encode (Cookie.isTextChar_header segments)

theorem binds_cookie {segments : List Cookie.Segment} (hp : p.binding = .keyed .cookie key c)
    (h : sc.request.headers.first? "cookie" = some (Utf8.encode (Cookie.header segments))) :
    sc.Binds d p (p.convertText c
      ((segments.filterMap Cookie.Segment.pair?).lookup key <|> p.default)) := by
  refine Scope.binds_of_argument (Parameter.source_ne_of_keyed hp) fun call => ?_
  rw [argument, bindParameter, hp]
  dsimp only
  rw [bindKeyed, cookieHeader?_eq_some h, Parameter.bindCookie, Cookie.find?_header]

/-- A text parameter for a cookie is bound to the value of the first pair of the header that has
exactly its name, blanks around names and values apart. If no pair has it, the parameter is bound to
its default, and without one it is missing. -/
theorem bind_cookie {segments : List Cookie.Segment}
    (h : sc.request.headers.first? "cookie" = some (Utf8.encode (Cookie.header segments)))
    (hp : p.binding = .keyed .cookie key (.scalar .text)) (d : Disk) :
    sc.Binds d p (match (segments.filterMap Cookie.Segment.pair?).lookup key, p.default with
      | some value, _ => .ok (some (.text value))
      | none, some text => .ok (some (.text text))
      | none, none => .error (.missingParameter key)) := by
  have hkey : p.displayKey = key := by
    rw [Parameter.displayKey, Parameter.key?, hp, Option.getD_some]
  have hbinds := binds_cookie (d := d) hp h
  cases hvalue : (segments.filterMap Cookie.Segment.pair?).lookup key with
  | some value =>
      rw [hvalue] at hbinds
      exact hbinds
  | none =>
      rw [hvalue] at hbinds
      cases hdefault : p.default with
      | some text =>
          rw [hdefault] at hbinds
          exact hbinds
      | none =>
          rw [hdefault] at hbinds
          rw [← hkey]
          exact hbinds

/-- Cookies with blanks in all places, an empty name, a text that is no pair, and a name twice. -/
def writtenCookies : List Cookie.Segment :=
  [.pair { text := "ab" } { text := "0" },
   .other { before := ['\t'], text := "a b", after := [' '] },
   .pair { before := [' '], text := "" } { text := "1" },
   .pair { before := [' '], text := "a", after := [' ', '\t'] }
     { before := [' '], text := "x=y z", after := ['\t'] },
   .pair { text := "a" } { text := "2" }]

/-- A request with these cookies, and a second header for others. -/
def sendsCookies : Scope Unit :=
  { sendsForm with
    request :=
      { method := "GET", uri := "/",
        headers := [("cookie",
          [Utf8.encode "ab=0;\ta b ; =1; a \t= x=y z\t;a=2", Utf8.encode "a=3;c=4"])] } }

theorem bind_cookie_written :
    let cookie (key : String) : Parameter := { binding := .keyed .cookie key (.scalar .text) }
    (∃ b, (bind (sendsCookies.alone (cookie "a")) ⟨(), [], {}⟩ {}).1 = .ok b ∧
        b.args = .ofList [some (.text "x=y z")]) ∧
      (bind (sendsCookies.alone (cookie "c")) ⟨(), [], {}⟩ {}).1 =
        .error ⟨"take", "GET / HTTP/1.1", .missingParameter "c"⟩ := by
  intro cookie
  have hheader : sendsCookies.request.headers.first? "cookie" =
      some (Utf8.encode (Cookie.header writtenCookies)) := by decide +kernel
  have ha := bind_cookie (p := cookie "a") hheader rfl {}
  have hc := bind_cookie (p := cookie "c") hheader rfl {}
  exact ⟨ha.alone _, hc.alone _⟩

end ServiceDispatch.Binding
