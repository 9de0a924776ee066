import BrowserShell.Proofs.Config.Startup
import BrowserShell.Proofs.File.Walk

/-!
# The problems of a configuration

What is wrong with a configuration is said here without the checks (`Config.Breaks`), and so is what
it is to have nothing wrong (`Config.Valid`). The checks find each problem once, in a fixed order of
which the place of the check comes first and the number of the rule second
(`ConfigProblem.Precedes`): a list in this order is known by its entries, so that
`Config.mem_problems_iff` and `Config.sorted_problems` leave nothing open. `Config.settle_exact` says
what becomes of a configuration that is finished in place.
-/

namespace BrowserShell

/-! ## The order of the checks -/

@[simp] theorem Config.mem_problemUnless {holds : Bool} {p q : ConfigProblem} :
    q ∈ problemUnless holds p ↔ holds = false ∧ q = p := by
  cases holds <;> simp [problemUnless]

/-- The problem of an address. -/
theorem Config.mem_addressProblem {field value : String} {p : ConfigProblem} :
    p ∈ addressProblem field value ↔
      SocketAddress.isValid value = false ∧ p = .badAddress field value :=
  mem_problemUnless

namespace ConfigProblem

/-- The settings that are socket addresses, in the order of their checks. -/
def addressFields : List String :=
  ["listener.bind_address", "upstream.address", "observability.metrics_address"]

/-- The settings that may not be zero, in the order of their checks. -/
def sizeFields : List String :=
  ["listener.max_body_size", "listener.request_timeout_secs", "filter.output_capacity"]

/-- The place of the check that finds a problem. -/
def check : ConfigProblem → Nat
  | .emptyAppPath => 0
  | .badDataPrefix _ => 1
  | .badAddress field _ => 2 + addressFields.idxOf field
  | .zero field => 5 + sizeFields.idxOf field
  | .emptyPattern .redirect _ => 8
  | .emptyPattern .replace _ => 9
  | .badLogFormat _ => 10

/-- The number of the rule that a problem is about, if it is about one. -/
def index : ConfigProblem → Nat
  | .emptyPattern _ i => i
  | _ => 0

/-- Whether a problem is found before another one. -/
def Precedes (p q : ConfigProblem) : Prop :=
  p.check < q.check ∨ p.check = q.check ∧ p.index < q.index

/-- The problems that the checks before the place `n` have found, in their order. -/
structure Found (n : Nat) (ps : List ConfigProblem) : Prop where
  sorted : ps.Pairwise Precedes
  before : ∀ p ∈ ps, p.check < n

theorem Found.nil : Found 0 [] := ⟨.nil, by simp⟩

/-- A check that is not made adds no problem. -/
theorem Found.skip {n : Nat} {ps : List ConfigProblem} (h : Found n ps) :
    Found (n + 1) (ps ++ []) := by
  rw [List.append_nil]
  exact ⟨h.sorted, fun p hp => Nat.lt_succ_of_lt (h.before p hp)⟩

/-- The next check adds its problems. -/
theorem Found.append {n : Nat} {ps qs : List ConfigProblem} (h : Found n ps)
    (hsorted : qs.Pairwise Precedes) (hcheck : ∀ q ∈ qs, q.check = n) :
    Found (n + 1) (ps ++ qs) where
  sorted := by
    refine List.pairwise_append.2 ⟨h.sorted, hsorted, fun p hp q hq => .inl ?_⟩
    rw [hcheck q hq]
    exact h.before p hp
  before p hp := by
    rcases List.mem_append.1 hp with hp | hp
    · exact Nat.lt_succ_of_lt (h.before p hp)
    · rw [hcheck p hp]
      exact Nat.lt_succ_self n

/-- The next check adds one problem at most. -/
theorem Found.problemUnless {n : Nat} {ps : List ConfigProblem} (h : Found n ps) (holds : Bool)
    (p : ConfigProblem) (hp : p.check = n) :
    Found (n + 1) (ps ++ Config.problemUnless holds p) := by
  refine h.append ?_ fun q hq => ?_
  · cases holds <;> simp [Config.problemUnless]
  · obtain ⟨-, rfl⟩ := Config.mem_problemUnless.1 hq
    exact hp

/-- The next check may add the problem of an address. -/
theorem Found.addressProblem {n : Nat} {ps : List ConfigProblem} (h : Found n ps) {field : String}
    (value : String) (hfield : 2 + addressFields.idxOf field = n) :
    Found (n + 1) (ps ++ Config.addressProblem field value) :=
  h.problemUnless _ _ hfield

/-- The next check may add the problem of an address, if it is made. -/
theorem Found.addressProblem_if {n : Nat} {ps : List ConfigProblem} (h : Found n ps) (made : Bool)
    {field : String} (value : String) (hfield : 2 + addressFields.idxOf field = n) :
    Found (n + 1) (ps ++ if made then Config.addressProblem field value else []) := by
  cases made with
  | false => exact h.skip
  | true => exact h.addressProblem value hfield

end ConfigProblem

namespace Config

open ConfigProblem

/-! ## The rules without a pattern -/

/-- The rules without a pattern are found under their numbers. -/
theorem mem_emptyPatterns {kind : RuleKind} {rs : List RuleText} {n : Nat} {p : ConfigProblem} :
    p ∈ emptyPatterns kind n rs ↔
      ∃ i r, rs[i]? = some r ∧ r.pattern = "" ∧ p = .emptyPattern kind (n + i) := by
  induction rs generalizing n with
  | nil => simp [emptyPatterns]
  | cons first rs ih =>
    rw [emptyPatterns, List.mem_append, mem_problemUnless, ih]
    constructor
    · rintro (⟨hfirst, rfl⟩ | ⟨i, r, hr, hempty, rfl⟩)
      · exact ⟨0, first, rfl, by simpa using hfirst, rfl⟩
      · exact ⟨i + 1, r, hr, hempty, by rw [Nat.add_right_comm, Nat.add_assoc]⟩
    · rintro ⟨i, r, hr, hempty, rfl⟩
      cases i with
      | zero =>
        obtain rfl : first = r := Option.some.inj hr
        exact .inl ⟨by simpa using hempty, rfl⟩
      | succ i => exact .inr ⟨i, r, hr, hempty, by rw [Nat.add_right_comm, Nat.add_assoc]⟩

/-- The rules without a pattern of a list are found by one check. -/
theorem check_of_mem_emptyPatterns {kind : RuleKind} {rs : List RuleText} {n : Nat} :
    ∀ p ∈ emptyPatterns kind n rs, p.check = (ConfigProblem.emptyPattern kind 0).check := by
  intro p hp
  obtain ⟨i, -, -, -, rfl⟩ := mem_emptyPatterns.1 hp
  cases kind <;> rfl

/-- The rules without a pattern are found in their order. -/
theorem sorted_emptyPatterns (kind : RuleKind) (n : Nat) (rs : List RuleText) :
    (emptyPatterns kind n rs).Pairwise Precedes := by
  induction rs generalizing n with
  | nil => exact .nil
  | cons first rs ih =>
    refine List.pairwise_append.2 ⟨?_, ih (n + 1), fun p hp q hq => ?_⟩
    · cases first.pattern != "" <;> simp [problemUnless]
    · obtain ⟨-, rfl⟩ := mem_problemUnless.1 hp
      obtain ⟨i, -, -, -, rfl⟩ := mem_emptyPatterns.1 hq
      -- The check is the same, and the number greater.
      refine .inr ⟨by cases kind <;> rfl, ?_⟩
      show n < n + 1 + i
      omega

/-! ## All checks -/

/-- The list of rules of a kind. -/
def rulesOf (c : Config) : RuleKind → List RuleText
  | .redirect => c.rules.redirect
  | .replace => c.rules.replace

/-- Whether a configuration has a problem: there is one for each condition that may not hold. -/
inductive Breaks (c : Config) : ConfigProblem → Prop
  | appPath : c.content.appDir = "" → Breaks c .emptyAppPath
  | dataPrefix : (¬ ∃ u, Url.parse c.content.dataPrefix = .ok u) →
      Breaks c (.badDataPrefix c.content.dataPrefix)
  | bindAddress : SocketAddress.isValid c.listener.bindAddress = false →
      Breaks c (.badAddress "listener.bind_address" c.listener.bindAddress)
  | upstream (u : BackendConfig) : c.backend = some u →
      SocketAddress.isValid u.address = false →
      Breaks c (.badAddress "upstream.address" u.address)
  | metrics : c.observability.metricsEnabled = true →
      SocketAddress.isValid c.observability.metricsAddress = false →
      Breaks c (.badAddress "observability.metrics_address" c.observability.metricsAddress)
  | maxBodySize : c.listener.maxBodySize = 0 → Breaks c (.zero "listener.max_body_size")
  | requestTimeout : c.listener.requestTimeoutSecs = 0 →
      Breaks c (.zero "listener.request_timeout_secs")
  | outputCapacity : c.filter.outputCapacity = 0 → Breaks c (.zero "filter.output_capacity")
  | pattern (kind : RuleKind) (i : Nat) (r : RuleText) : (c.rulesOf kind)[i]? = some r →
      r.pattern = "" → Breaks c (.emptyPattern kind i)
  | logFormat : c.observability.logFormat ≠ "pretty" → c.observability.logFormat ≠ "json" →
      Breaks c (.badLogFormat c.observability.logFormat)

/-- The conditions on a configuration. -/
structure Valid (c : Config) : Prop where
  appPath : c.content.appDir ≠ ""
  dataPrefix : ∃ u, Url.parse c.content.dataPrefix = .ok u
  bindAddress : SocketAddress.isValid c.listener.bindAddress = true
  upstream : ∀ u ∈ c.backend, SocketAddress.isValid u.address = true
  metrics : c.observability.metricsEnabled = true →
    SocketAddress.isValid c.observability.metricsAddress = true
  maxBodySize : 0 < c.listener.maxBodySize
  requestTimeout : 0 < c.listener.requestTimeoutSecs
  outputCapacity : 0 < c.filter.outputCapacity
  patterns : ∀ r ∈ c.rules.redirect ++ c.rules.replace, r.pattern ≠ ""
  logFormat : c.observability.logFormat = "pretty" ∨ c.observability.logFormat = "json"

theorem isUrl_eq_false_iff (s : String) : isUrl s = false ↔ ¬ ∃ u, Url.parse s = .ok u := by
  unfold isUrl
  cases Url.parse s <;> simp

/-- A configuration meets the conditions exactly if it has no problem. -/
theorem valid_iff (c : Config) : c.Valid ↔ ∀ p, ¬ c.Breaks p := by
  constructor
  · intro h p hp
    cases hp with
    | appPath happ => exact h.appPath happ
    | dataPrefix hdata => exact hdata h.dataPrefix
    | bindAddress hbind => simp [h.bindAddress] at hbind
    | upstream u hu hupstream => simp [h.upstream u hu] at hupstream
    | metrics hon hmetrics => simp [h.metrics hon] at hmetrics
    | maxBodySize hzero => exact (Nat.pos_iff_ne_zero.1 h.maxBodySize) hzero
    | requestTimeout hzero => exact (Nat.pos_iff_ne_zero.1 h.requestTimeout) hzero
    | outputCapacity hzero => exact (Nat.pos_iff_ne_zero.1 h.outputCapacity) hzero
    | pattern kind i r hr hempty =>
      refine h.patterns r (List.mem_append.2 ?_) hempty
      cases kind with
      | redirect => exact .inl (List.mem_of_getElem? hr)
      | replace => exact .inr (List.mem_of_getElem? hr)
    | logFormat hpretty hjson => exact h.logFormat.elim hpretty hjson
  · intro h
    have hpattern : ∀ kind, ∀ r ∈ c.rulesOf kind, r.pattern ≠ "" := by
      intro kind r hr hempty
      obtain ⟨i, hi⟩ := List.mem_iff_getElem?.1 hr
      exact h _ (.pattern kind i r hi hempty)
    exact {
      appPath := fun happ => h _ (.appPath happ)
      dataPrefix := not_not.1 fun hdata => h _ (.dataPrefix hdata)
      bindAddress := eq_true_of_ne_false fun hbind => h _ (.bindAddress hbind)
      upstream := fun u hu =>
        eq_true_of_ne_false fun hupstream => h _ (.upstream u hu hupstream)
      metrics := fun hon => eq_true_of_ne_false fun hmetrics => h _ (.metrics hon hmetrics)
      maxBodySize := Nat.pos_of_ne_zero fun hzero => h _ (.maxBodySize hzero)
      requestTimeout := Nat.pos_of_ne_zero fun hzero => h _ (.requestTimeout hzero)
      outputCapacity := Nat.pos_of_ne_zero fun hzero => h _ (.outputCapacity hzero)
      patterns := fun r hr =>
        (List.mem_append.1 hr).elim (hpattern .redirect r) (hpattern .replace r)
      logFormat := by
        by_contra hformat
        obtain ⟨hpretty, hjson⟩ := not_or.1 hformat
        exact h _ (.logFormat hpretty hjson) }

/-- The checks find the problems of a configuration and no others. -/
theorem mem_problems_iff (c : Config) (p : ConfigProblem) : p ∈ c.problems ↔ c.Breaks p := by
  unfold problems
  simp only [List.mem_append, mem_problemUnless, mem_addressProblem, mem_emptyPatterns]
  constructor
  · rintro ((((((((((⟨happ, rfl⟩ | ⟨hdata, rfl⟩) | ⟨hbind, rfl⟩) | hupstream) | hmetrics) |
      ⟨hzero, rfl⟩) | ⟨hzero, rfl⟩) | ⟨hzero, rfl⟩) | ⟨i, r, hr, hempty, rfl⟩) |
      ⟨i, r, hr, hempty, rfl⟩) | ⟨hformat, rfl⟩)
    · exact .appPath (by simpa using happ)
    · exact .dataPrefix ((isUrl_eq_false_iff _).1 hdata)
    · exact .bindAddress hbind
    · cases hbackend : c.backend with
      | none => simp [hbackend] at hupstream
      | some u =>
        rw [hbackend] at hupstream
        obtain ⟨haddress, rfl⟩ := mem_addressProblem.1 hupstream
        exact .upstream u hbackend haddress
    · split at hmetrics
      · rename_i hon
        obtain ⟨haddress, rfl⟩ := mem_addressProblem.1 hmetrics
        exact .metrics hon haddress
      · cases hmetrics
    · exact .maxBodySize (by simpa using hzero)
    · exact .requestTimeout (by simpa using hzero)
    · exact .outputCapacity (by simpa using hzero)
    · rw [Nat.zero_add]
      exact .pattern .redirect i r hr hempty
    · rw [Nat.zero_add]
      exact .pattern .replace i r hr hempty
    · simp only [Bool.or_eq_false_iff, beq_eq_false_iff_ne] at hformat
      exact .logFormat hformat.1 hformat.2
  · intro h
    cases h with
    | appPath happ => simp [happ]
    | dataPrefix hdata => simp [(isUrl_eq_false_iff _).2 hdata]
    | bindAddress hbind => simp [hbind]
    | upstream u hu haddress => simp [hu, mem_addressProblem, haddress]
    | metrics hon haddress => simp [hon, mem_addressProblem, haddress]
    | maxBodySize hzero => simp [hzero]
    | requestTimeout hzero => simp [hzero]
    | outputCapacity hzero => simp [hzero]
    | pattern kind i r hr hempty =>
      cases kind with
      | redirect => simp [rulesOf] at hr; simp [hr, hempty]
      | replace => simp [rulesOf] at hr; simp [hr, hempty]
    | logFormat hpretty hjson => simp [hpretty, hjson]

/-- The checks find the problems in their order, each once. -/
theorem sorted_problems (c : Config) : c.problems.Pairwise Precedes := by
  have hbind : Found 3 (problemUnless (c.content.appDir != "") .emptyAppPath ++
      problemUnless (isUrl c.content.dataPrefix) (.badDataPrefix c.content.dataPrefix) ++
      addressProblem "listener.bind_address" c.listener.bindAddress) :=
    ((Found.nil.problemUnless _ _ rfl).problemUnless _ _ rfl).addressProblem _ (by decide)
  have hall : Found 11 c.problems := by
    unfold problems
    -- From the last check back to that of the backend's address, which is left out without one.
    refine Found.problemUnless ?_ _ _ rfl
    refine Found.append ?_ (sorted_emptyPatterns _ _ _) check_of_mem_emptyPatterns
    refine Found.append ?_ (sorted_emptyPatterns _ _ _) check_of_mem_emptyPatterns
    refine Found.problemUnless ?_ _ _ (by decide)
    refine Found.problemUnless ?_ _ _ (by decide)
    refine Found.problemUnless ?_ _ _ (by decide)
    refine Found.addressProblem_if ?_ _ _ (by decide)
    cases c.backend with
    | none => exact hbind.skip
    | some u => exact hbind.addressProblem _ (by decide)
  exact hall.sorted

/-- Whether an answer says what is wrong with a configuration: nothing, where it meets the
conditions, and else each of its problems, once and in the order of the checks. -/
structure Judges (answer : Except ConfigError Unit) (c : Config) : Prop where
  ok_iff : answer = .ok () ↔ c.Valid
  invalid : ¬ c.Valid → ∃ ps, answer = .error (.invalid ps) ∧
    ps.Pairwise Precedes ∧ ∀ p, p ∈ ps ↔ c.Breaks p

/-- A configuration is valid exactly if the checks find nothing. -/
theorem valid_iff_problems (c : Config) : c.Valid ↔ c.problems = [] := by
  simp only [valid_iff, ← mem_problems_iff, List.eq_nil_iff_forall_not_mem]

/-- The checks say what is wrong with a configuration. -/
theorem judges_checked (c : Config) : Judges (c.checked.map fun _ => ()) c := by
  unfold checked
  split
  · rename_i hnone
    have hvalid : c.Valid := c.valid_iff_problems.2 hnone
    exact ⟨iff_of_true rfl hvalid, fun h => absurd hvalid h⟩
  · rename_i hsome
    have hinvalid : ¬ c.Valid := fun h => hsome (c.valid_iff_problems.1 h)
    exact ⟨iff_of_false (by simp [Except.map]) hinvalid, fun _ =>
      ⟨c.problems, rfl, c.sorted_problems, c.mem_problems_iff⟩⟩

/-! ## Finishing a configuration in place -/

/-- Without a page the configuration stays as it is. -/
theorem applyMeta_of_no_page {t : FileTree} {c : Config}
    (h : c.content.loadStartupMeta = false ∨ t.isFile c.content.startupPagePath = false) :
    c.applyMeta t = .ok (c, none) := by
  unfold applyMeta
  rcases h with h | h <;> simp [h]

/-- A page that cannot be read is an error. -/
theorem applyMeta_of_error {t : FileTree} {c : Config} {e : FileTree.ReadError}
    (hload : c.content.loadStartupMeta = true)
    (hfile : t.isFile c.content.startupPagePath = true)
    (hread : t.readText c.content.startupPagePath = .error e) :
    c.applyMeta t = .error (.read e) := by
  simp [applyMeta, hload, hfile, hread]

/-- A step that reads the configuration goes on with it as it is. -/
theorem Change.run_get_bind {α : Type} (f : Config → Change α) (c : Config) :
    (get >>= f : Change α).run.run c = (f c).run.run c := rfl

/-- After a step the next one goes on with the configuration as it is then, unless the first ended
with an error. -/
theorem Change.run_bind {α β : Type} (x : Change α) (f : α → Change β) (c : Config) :
    (x >>= f).run.run c =
      match x.run.run c with
      | (.ok a, c') => (f a).run.run c'
      | (.error e, c') => (.error e, c') := by
  rw [ExceptT.run_bind, StateT.run_bind]
  obtain ⟨answer, c'⟩ := x.run.run c
  cases answer with
  | ok a => rfl
  | error e => rfl

/-- The rules of the page are appended in place once the page has been read. -/
theorem run_appendMeta (t : FileTree) (c : Config) :
    (appendMeta t).run.run c =
      match c.applyMeta t with
      | .error e => (.error e, c)
      | .ok (merged, found) => (.ok found, merged) := by
  unfold appendMeta applyMeta
  rw [Change.run_get_bind]
  dsimp only
  split
  · rfl
  · cases t.readText c.content.startupPagePath with
    | error e => rfl
    | ok html => rfl

/-- A configuration is checked in place with the rules of the page. -/
theorem run_settle (t : FileTree) (c : Config) :
    (settle t).run.run c =
      match c.applyMeta t with
      | .error e => (.error e, c)
      | .ok (merged, _) => (merged.checked.map fun _ => (), merged) := by
  unfold settle
  rw [Change.run_bind, run_appendMeta]
  cases c.applyMeta t with
  | error e => rfl
  | ok result =>
    obtain ⟨merged, found⟩ := result
    dsimp only
    rw [Change.run_get_bind, checked]
    by_cases h : merged.problems = []
    · rw [if_pos h, if_pos h]
      rfl
    · rw [if_neg h, if_neg h]
      rfl

/-- Finishing in place gives the configuration that finishing gives. -/
theorem finish_eq_settle (t : FileTree) (c : Config) :
    c.finish t = ((settle t).run.run c).1.map fun _ => ((settle t).run.run c).2 := by
  rw [run_settle]
  unfold finish
  cases c.applyMeta t with
  | error e => rfl
  | ok result =>
    obtain ⟨merged, found⟩ := result
    have hchecked : merged.checked = (merged.checked.map fun _ => ()).map fun _ => merged := by
      unfold checked
      split
      · rfl
      · rfl
    dsimp only [bind, Except.bind]
    exact hchecked

/-- What becomes of a configuration that is finished in place. It stays as it is if the startup page
is not looked for or not a file, and also if the page is no text, which is an error. It has the rules
of the page behind its own, and nothing else is changed, if the page is read. But for that error, the
answer says what is wrong with the configuration as it is then. -/
theorem settle_exact (t : FileTree) (c : Config) :
    let answer := ((settle t).run.run c).1
    let c' := ((settle t).run.run c).2
    (c.content.loadStartupMeta = false ∨ t.isFile c.content.startupPagePath = false →
        c' = c ∧ Judges answer c') ∧
      (c.content.loadStartupMeta = true → t.isFile c.content.startupPagePath = true →
        ∃ content, t.read c.content.startupPagePath = .ok content ∧
          (Utf8.decode? content = none → answer = .error (.read .notText) ∧ c' = c) ∧
          ∀ html, Utf8.decode? content = some html →
            c' = c.withMeta (.parse html) ∧ Judges answer c') ∧
      c.finish t = answer.map fun _ => c' := by
  refine ⟨fun hno => ?_, fun hload hfile => ?_, finish_eq_settle t c⟩
  · rw [run_settle, applyMeta_of_no_page hno]
    dsimp only
    exact ⟨rfl, judges_checked c⟩
  · obtain ⟨content, hread⟩ := FileTree.isFile_iff.1 hfile
    refine ⟨content, hread, fun hdecode => ?_, fun html hdecode => ?_⟩
    · have htext := FileTree.readText_of_read hread
      rw [hdecode] at htext
      rw [run_settle, applyMeta_of_error hload hfile htext]
      exact ⟨rfl, rfl⟩
    · have htext := FileTree.readText_of_read hread
      rw [hdecode] at htext
      rw [run_settle, applyMeta_of_page hload htext]
      dsimp only
      exact ⟨rfl, judges_checked _⟩

/-- A rule of the page without a pattern is found under its number behind the configured rules. -/
theorem settle_exact_rule_of_page :
    let html := "<meta name=\"redirect|b\" content=\"\">"
    let t := FileTree.empty.write "page/startup.html" (Utf8.encode html)
    let c : Config :=
      { content := { dataPrefix := "data:" }, rules := { redirect := [⟨"a", "c"⟩] } }
    let c' := { c with rules := { redirect := [⟨"a", "c"⟩, ⟨"", "b"⟩] } }
    c.content.loadStartupMeta = true ∧ t.isFile c.content.startupPagePath = true ∧
      ((settle t).run.run c).2 = c' ∧
      ∃ ps, ((settle t).run.run c).1 = .error (.invalid ps) ∧ ps.Pairwise Precedes ∧
        (∀ p, p ∈ ps ↔ c'.Breaks p) ∧ .emptyPattern .redirect 1 ∈ ps := by
  intro html t c c'
  have hfile : t.isFile c.content.startupPagePath = true := by decide +kernel
  have hread : (t.read c.content.startupPagePath).toOption = some (Utf8.encode html) := by
    decide +kernel
  have hdecode : Utf8.decode? (Utf8.encode html) = some html := by decide +kernel
  have hmeta : c.withMeta (.parse html) = c' := by decide +kernel
  have hbreaks : c'.Breaks (.emptyPattern .redirect 1) := .pattern .redirect 1 ⟨"", "b"⟩ rfl rfl
  obtain ⟨-, hpage, -⟩ := settle_exact t c
  obtain ⟨content, hcontent, -, htext⟩ := hpage rfl hfile
  rw [eq_ok_of_toOption hread] at hcontent
  cases hcontent
  obtain ⟨hc', hjudges⟩ := htext html hdecode
  rw [hc', hmeta] at hjudges
  obtain ⟨ps, hps, hsorted, hmem⟩ := hjudges.invalid fun h => (c'.valid_iff.1 h) _ hbreaks
  exact ⟨rfl, hfile, hc'.trans hmeta, ps, hps, hsorted, hmem, (hmem _).2 hbreaks⟩

end Config

end BrowserShell
