import BrowserShell.Config.Startup
import BrowserShell.Proofs.Context
import BrowserShell.Proofs.Result
import BrowserShell.Proofs.Rule.Lists

/-!
# The rules of the startup page

The rules that the startup page carries come behind the configured ones. For redirecting, where the
first rule that matches wins, this means that a page cannot take a path away from the configuration;
for replacing, where every rule applies, that the page's rules see the body as the configured ones
left it. `Config.finish_rules` says so of what is set up from a configuration that was finished.
-/

namespace BrowserShell

/-- A path that can be read is a file's. -/
theorem FileTree.isFile_of_readText {t : FileTree} {p : Path} {s : String}
    (h : t.readText p = .ok s) : t.isFile p = true := by
  obtain ⟨content, hread, -⟩ := exists_of_bind_eq_ok h
  unfold read at hread
  unfold isFile
  split at hread
  · rename_i heq
    rw [heq]
  · cases hread
  · cases hread

/-- A file is read as the text that its content is, if it is one. -/
theorem FileTree.readText_of_read {t : FileTree} {p : Path} {content : Bytes}
    (h : t.read p = .ok content) :
    t.readText p =
      match Utf8.decode? content with
      | some s => .ok s
      | none => .error .notText := by
  unfold readText
  rw [h]
  rfl

namespace Config

/-- The configuration with the rules of a page behind its own. -/
def withMeta (c : Config) (m : Meta) : Config :=
  { c with
    rules :=
      { redirect := c.rules.redirect ++ m.redirect
        replace := c.rules.replace ++ m.replace } }

/-- A startup page that can be read gives its rules. -/
theorem applyMeta_of_page {t : FileTree} {c : Config} {html : String}
    (hload : c.content.loadStartupMeta = true)
    (hread : t.readText c.content.startupPagePath = .ok html) :
    c.applyMeta t = .ok (c.withMeta (.parse html), some (.parse html)) := by
  have hfile := FileTree.isFile_of_readText hread
  unfold applyMeta
  dsimp only
  rw [hload, hfile, hread]
  rfl

/-- A configuration that passes the checks is left as it is. -/
theorem eq_of_checked {c c' : Config} (h : c.checked = .ok c') : c' = c := by
  unfold checked at h
  split at h
  · cases h
    rfl
  · cases h

/-- A finished configuration has the rules of the startup page behind its own. -/
theorem eq_withMeta_of_finish {t : FileTree} {c c' : Config} {html : String}
    (h : c.finish t = .ok c') (hload : c.content.loadStartupMeta = true)
    (hread : t.readText c.content.startupPagePath = .ok html) :
    c' = c.withMeta (.parse html) := by
  obtain ⟨⟨merged, found⟩, happly, hchecked⟩ := exists_of_bind_eq_ok h
  rw [applyMeta_of_page hload hread] at happly
  cases happly
  exact eq_of_checked hchecked

/-- The provider of pages redirects by the configured rules. -/
theorem head?_chain (c : Config) (t : FileTree) :
    ∃ p : Pages, (c.chain t).head?.map Registered.provider = some (.pages p) ∧
      p.redirect = .ofTexts c.rules.redirect :=
  ⟨_, by rw [chain_eq]; rfl, rfl⟩

/-- After the startup page has given its rules, a path is redirected as the configured rules say,
and as the page's rules say where those redirect it nowhere; a body is changed by the configured
rules and then by the page's. The same holds of any two lists of rules one behind the other, with
malformed rules among them or not. -/
theorem finish_rules {t : FileTree} {c c' : Config} {html : String} (h : c.finish t = .ok c')
    (hload : c.content.loadStartupMeta = true)
    (hread : t.readText c.content.startupPagePath = .ok html) (now : FileTree) :
    let m := Meta.parse html
    (∃ p : Pages, (c'.chain now).head?.map Registered.provider = some (.pages p) ∧
        ∀ path, p.redirect.redirect? path =
          ((Rules.ofTexts c.rules.redirect).redirect? path).or
            ((Rules.ofTexts m.redirect).redirect? path)) ∧
      (∀ body, c'.filters.rules.replaceAll body =
        (Rules.ofTexts m.replace).replaceAll
          ((Rules.ofTexts c.rules.replace).replaceAll body)) ∧
      (∀ (rs ss : Rules) (path : String),
        (rs ++ ss : Rules).redirect? path = (rs.redirect? path).or (ss.redirect? path)) ∧
      ∀ (rs ss : Rules) (body : Bytes),
        (rs ++ ss : Rules).replaceAll body = ss.replaceAll (rs.replaceAll body) := by
  intro m
  -- The checks keep the configuration, so that the merged rules are the ones that are compiled.
  obtain rfl : c' = c.withMeta m := eq_withMeta_of_finish h hload hread
  refine ⟨?_, fun body => ?_, Rules.redirect?_append, Rules.replaceAll_append⟩
  · obtain ⟨p, hp, hrules⟩ := head?_chain (c.withMeta m) now
    refine ⟨p, hp, fun path => ?_⟩
    calc p.redirect.redirect? path
        = (Rules.ofTexts (c.rules.redirect ++ m.redirect)).redirect? path := by rw [hrules]; rfl
      _ = _ := by rw [Rules.ofTexts_append, Rules.redirect?_append]
  · calc (c.withMeta m).filters.rules.replaceAll body
        = (Rules.ofTexts (c.rules.replace ++ m.replace)).replaceAll body := rfl
      _ = _ := by rw [Rules.ofTexts_append, Rules.replaceAll_append]

/-- A page with a rule for the pattern of a configured one leaves the configured one in force. -/
theorem finish_rules_same_pattern :
    let html := "<meta name=\"redirect|b\" content=\"a\">"
    let t := FileTree.empty.write "page/startup.html" (Utf8.encode html)
    let c : Config :=
      { content := { dataPrefix := "data:" }, rules := { redirect := [⟨"a", "c"⟩] } }
    let c' := { c with rules := { redirect := [⟨"a", "c"⟩, ⟨"a", "b"⟩] } }
    c.finish t = .ok c' ∧ c.content.loadStartupMeta = true ∧
      t.readText c.content.startupPagePath = .ok html ∧
      ∃ p : Pages, (c'.chain t).head?.map Registered.provider = some (.pages p) ∧
        ∀ path, p.redirect.redirect? path =
          ((Rules.ofTexts [⟨"a", "c"⟩]).redirect? path).or
            ((Rules.ofTexts [⟨"a", "b"⟩]).redirect? path) := by
  intro html t c c'
  have hfinish : c.finish t = .ok c' := eq_ok_of_toOption (by decide +kernel)
  have hread : t.readText c.content.startupPagePath = .ok html :=
    eq_ok_of_toOption (by decide +kernel)
  have hmeta : (Meta.parse html).redirect = [⟨"a", "b"⟩] := by decide +kernel
  obtain ⟨⟨p, hp, hredirect⟩, -⟩ := finish_rules hfinish rfl hread t
  rw [hmeta] at hredirect
  exact ⟨hfinish, rfl, hread, p, hp, hredirect⟩

end Config

end BrowserShell
