import BrowserShell.Injection
import BrowserShell.Proofs.Text.JsonString
import BrowserShell.Proofs.Text.Split

/-!
# What the report of a body runs

The code of a report is one call, whatever the body holds: its two arguments are literals of the URL
and of the body. Since a literal ends with its own quote, whatever follows
(`JsonString.Literal.decode?`), the code can be read as a call in no other way, and
`Injection.code_ofBody` says that a page gets the URL and the body as they are.
-/

namespace BrowserShell.Injection

/-- Whether a code is the call that reports a body for a URL. -/
def IsCall (code url body : String) : Prop :=
  ∃ first second, JsonString.Literal first url.toList ∧ JsonString.Literal second body.toList ∧
    code = "eventCall(" ++ String.ofList first ++ "," ++ String.ofList second ++ ");"

/-- The URL and the body that a code reports, none if it is no report. -/
def call? (code : String) : Option (String × String) := do
  let cs ← Text.after? "eventCall(".toList code.toList
  let (url, cs) ← JsonString.decode? cs
  let cs ← Text.after? [','] cs
  let (body, cs) ← JsonString.decode? cs
  if cs = ");".toList then some (String.ofList url, String.ofList body) else none

/-- The characters of a call. -/
theorem toList_call (first second : List Char) :
    ("eventCall(" ++ String.ofList first ++ "," ++ String.ofList second ++ ");").toList =
      "eventCall(".toList ++ (first ++ (',' :: (second ++ ");".toList))) := by
  simp [String.toList_append]

/-- A call is read as what it reports. -/
theorem call?_of_isCall {code url body : String} (h : IsCall code url body) :
    call? code = some (url, body) := by
  obtain ⟨first, second, hurl, hbody, rfl⟩ := h
  have hcomma : Text.after? [','] (',' :: (second ++ ");".toList)) = some (second ++ ");".toList) :=
    Text.after?_append [','] _
  -- Each literal is read up to its own quote, so that the comma and the bracket are what follows.
  unfold call?
  rw [toList_call, Text.after?_append, Option.bind_eq_bind, Option.bind_some, hurl.decode?]
  dsimp only [Option.bind_eq_bind, Option.bind_some]
  rw [hcomma]
  dsimp only [Option.bind_some]
  rw [hbody.decode?]
  simp

/-- The report of a body is the call for it. -/
theorem isCall_ofBody (url body : String) : IsCall (ofBody url body).code url body :=
  ⟨_, _, JsonString.literal_encode url.toList, JsonString.literal_encode body.toList, rfl⟩

/-- The code of a report is a call with a literal of the URL and one of the body, and it is a call
with no other arguments; reading it gives both back. So reports have the same code only if they are
the same. -/
theorem code_ofBody (url body : String) :
    (∀ u b, IsCall (ofBody url body).code u b ↔ u = url ∧ b = body) ∧
      call? (ofBody url body).code = some (url, body) ∧
      ∀ url' body', (ofBody url' body').code = (ofBody url body).code ↔
        url' = url ∧ body' = body := by
  have hcall := call?_of_isCall (isCall_ofBody url body)
  -- Reading decides between any two ways to take the code as a call.
  have honly : ∀ {u b}, IsCall (ofBody url body).code u b → u = url ∧ b = body := by
    intro u b h
    have heq := (call?_of_isCall h).symm.trans hcall
    cases heq
    exact ⟨rfl, rfl⟩
  refine ⟨fun u b => ⟨honly, ?_⟩, hcall, fun url' body' => ⟨fun h => ?_, ?_⟩⟩
  · rintro ⟨rfl, rfl⟩
    exact isCall_ofBody u b
  · exact honly (h ▸ isCall_ofBody url' body')
  · rintro ⟨rfl, rfl⟩
    rfl

end BrowserShell.Injection
