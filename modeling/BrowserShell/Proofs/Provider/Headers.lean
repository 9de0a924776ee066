import BrowserShell.Proofs.Provider.Bodies
import BrowserShell.Proofs.Text.Json
import BrowserShell.Proofs.Text.Utf8

/-!
# The list of the headers of a request

The dump of the headers is a JSON text. It writes an array with an object for each header, in their
order, whose one member is the name and the value, and it writes nothing else
(`headerDump_faithful`): whatever characters names and values hold, and however often a name comes,
the headers can be read back as they are.
-/

namespace BrowserShell.Dump

/-- A header as a JSON value: an object with the name and the value as its one member. -/
def headerValue (h : String × String) : Json := .object [(h.1, .string h.2)]

/-- Headers as a JSON value: an array of them in their order. -/
def headersValue (hs : Headers) : Json := .array (hs.map headerValue)

/-- A header as it stands in the dump. -/
def member (h : String × String) : List Char :=
  '\x7b' :: (JsonString.encode h.1.toList ++ ':' :: JsonString.encode h.2.toList) ++ ['\x7d']

/-- The members of a dump stand between brackets, with commas between them. -/
theorem toList_headersJson (hs : Headers) :
    (headersJson hs).toList = '[' :: Text.joined ',' (hs.map member) ++ [']'] := by
  have hmember : ∀ h : String × String,
      ("\x7b" ++ JsonString.literal h.1 ++ ":" ++ JsonString.literal h.2 ++ "\x7d").toList =
        member h := by
    intro h
    simp [member, JsonString.literal, String.toList_append]
  have hmap : (hs.map fun h => "\x7b" ++ JsonString.literal h.1 ++ ":" ++
      JsonString.literal h.2 ++ "\x7d").map String.toList = hs.map member := by
    rw [List.map_map]
    exact List.map_congr_left fun h _ => hmember h
  unfold headersJson Text.join
  dsimp only
  rw [hmap]
  simp [String.toList_append]

/-- No blanks stand around what is written without them. -/
theorem writes_element {w : List Char} {v : Json} (h : Json.Writes w (.value v)) :
    Json.Writes w (.element v) := by
  have hblank : Json.Blank [] := by simp [Json.Blank]
  have hpadded := Json.Writes.padded hblank h hblank
  rwa [List.nil_append, List.append_nil] at hpadded

/-- A literal writes the string of the text. -/
theorem writes_literal (s : String) :
    Json.Writes (JsonString.encode s.toList) (.value (.string s)) := by
  have hliteral := Json.Writes.string (JsonString.literal_encode s.toList)
  rwa [String.ofList_toList] at hliteral

/-- What stands for a header writes its value. -/
theorem writes_member (h : String × String) : Json.Writes (member h) (.value (headerValue h)) := by
  have hblank : Json.Blank [] := by simp [Json.Blank]
  have hvalue : Json.Writes (JsonString.encode h.2.toList) (.element (.string h.2)) :=
    writes_element (writes_literal h.2)
  have hmember := Json.Writes.member hblank (JsonString.literal_encode h.1.toList) hblank hvalue
  rw [List.nil_append, List.append_nil, String.ofList_toList] at hmember
  exact .object (.oneMember hmember)

/-- What stands for headers, of which there is at least one, writes their values. -/
theorem writes_members {hs : Headers} (hne : hs ≠ []) :
    Json.Writes (Text.joined ',' (hs.map member)) (.elements (hs.map headerValue)) := by
  induction hs with
  | nil => exact absurd rfl hne
  | cons h hs ih =>
    have hfirst : Json.Writes (member h) (.element (headerValue h)) :=
      writes_element (writes_member h)
    by_cases hrest : hs = []
    · subst hrest
      exact .oneElement hfirst
    · -- More headers follow, behind a comma.
      have hmap : hs.map member ≠ [] := by simpa using hrest
      rw [List.map_cons, Text.joined_cons (member h) hmap, List.map_cons]
      exact .moreElements hfirst (ih hrest)

/-- The dump of headers writes the array of their values. -/
theorem writes_headersJson {hs : Headers} (hne : hs ≠ []) :
    Json.Writes (headersJson hs).toList (.element (headersValue hs)) := by
  rw [toList_headersJson]
  exact writes_element (.array (writes_members hne))

/-- Different headers have different values. -/
theorem headersValue_injective {hs hs' : Headers} (h : headersValue hs = headersValue hs') :
    hs = hs' := by
  have hinjective : Function.Injective headerValue := by
    rintro ⟨name, value⟩ ⟨name', value'⟩ heq
    simpa [headerValue] using heq
  exact List.map_injective_iff.2 hinjective (Json.array.inj h)

/-- The body of the dump of some headers. -/
theorem body_headerDump_eq {r : Request} (h : r.headers ≠ []) :
    (headerDump r).body = Utf8.encode (headersJson r.headers) := by
  have hempty : r.headers.isEmpty = false := List.isEmpty_eq_false_iff.2 h
  show Utf8.encode (if r.headers.isEmpty then "" else headersJson r.headers) = _
  rw [hempty]
  rfl

/-- The dump of the headers of a request that has some is a JSON text. It writes the array of the
headers, as objects of one member each, and nothing else, and it is read so; another request has
the same dump only if it has the same headers, in the same order and writing. -/
theorem headerDump_faithful (r : Request) (h : r.headers ≠ []) :
    ∃ text : String, (headerDump r).body = Utf8.encode text ∧
      Json.parse? text = some (.array (r.headers.map fun h => .object [(h.1, .string h.2)])) ∧
      (∀ v, Json.Writes text.toList (.element v) ↔
        v = .array (r.headers.map fun h => .object [(h.1, .string h.2)])) ∧
      ∀ r' : Request, (headerDump r').body = (headerDump r).body ↔ r'.headers = r.headers := by
  have hwrites := writes_headersJson h
  have hbody := body_headerDump_eq h
  refine ⟨headersJson r.headers, hbody, Json.parse?_of_writes hwrites, fun v => ⟨?_, ?_⟩,
    fun r' => ⟨fun hsame => ?_, fun hsame => ?_⟩⟩
  · exact fun hv => hv.unique hwrites
  · rintro rfl
    exact hwrites
  · have hsome : r'.headers ≠ [] := by
      intro hnone
      rw [(body_headerDump r').2 hnone] at hsame
      exact h ((body_headerDump r).1 hsame.symm)
    -- The same bytes are the same text, and a text writes one value.
    rw [body_headerDump_eq hsome, hbody] at hsame
    have htext : headersJson r'.headers = headersJson r.headers := Utf8.encode_injective hsame
    have hwrites' := writes_headersJson hsome
    rw [htext] at hwrites'
    exact headersValue_injective (hwrites'.unique hwrites)
  · have hsome : r'.headers ≠ [] := hsame ▸ h
    rw [body_headerDump_eq hsome, hbody, hsame]

/-- A name that comes twice, in two writings, with a quote and a line end in its values. -/
theorem headerDump_faithful_repeated :
    let r : Request :=
      { url := ⟨"app", some ⟨"", some (.name "shell"), none⟩, "/_/dump/header.html", none, none⟩
        headers := [("X-A", "a\"b"), ("x-a", "\n")] }
    r.headers ≠ [] ∧
      ∃ text : String, (headerDump r).body = Utf8.encode text ∧
        Json.parse? text = some (.array [.object [("X-A", .string "a\"b")],
          .object [("x-a", .string "\n")]]) ∧
        (∀ v, Json.Writes text.toList (.element v) ↔
          v = .array [.object [("X-A", .string "a\"b")], .object [("x-a", .string "\n")]]) ∧
        ∀ r' : Request, (headerDump r').body = (headerDump r).body ↔
          r'.headers = [("X-A", "a\"b"), ("x-a", "\n")] := by
  intro r
  have hsome : r.headers ≠ [] := List.cons_ne_nil _ _
  exact ⟨hsome, headerDump_faithful r hsome⟩

end BrowserShell.Dump
