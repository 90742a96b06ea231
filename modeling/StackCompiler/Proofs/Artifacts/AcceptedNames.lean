import StackCompiler.Proofs.Artifacts.SidecarTexts
import StackCompiler.Proofs.Routing.Integrity
import StackCompiler.Proofs.Text.Forms

/-!
# Accepted names

Names and addresses are checked for their form and then written without quotes, into the rules that
lead to hosts and into the files of sidecars. That is sound for all texts but those that have a form
up to a line feed at their end: these are accepted as well (`isFullyChecked_iff`).
-/

namespace StackCompiler

open Text

/-- The text is accepted just where it has the form. Where it is, it ends no line, and neither does
a rule or a variable of a sidecar in which it stands for a name. -/
structure IsFullyChecked (s : String) : Prop where
  slug : isSlug s ↔ HasSlugForm s.toList
  email : isEmail s ↔ HasMailForm s.toList
  not_lineEnd : isSlug s ∨ isEmail s → ∀ c ∈ s.toList, ¬isLineEnd c
  rule : isSlug s → ∀ settings : Settings, OneLine settings.baseDomain →
    OneLine (Routing.hostRule settings s)
  sidecar : isSlug s → ∀ (settings : Settings) (p : Policy) (context : Sidecar.Context),
    Sidecar.OneLine settings p context →
      (Sidecar.environmentOf { settings with deploymentId := s }
        { p with id := s, host := s, roles := s :: p.roles } context).ReadsBack

theorem Routing.oneLine_hostRule_iff {settings : Settings} {host : String} :
    OneLine (Routing.hostRule settings host) ↔ OneLine host ∧ OneLine settings.baseDomain := by
  simp [OneLine, Routing.toList_hostRule]

/-- A name can stand in a sidecar wherever names do. -/
theorem Sidecar.OneLine.rename {settings : Settings} {p : Policy} {context : Sidecar.Context}
    (h : Sidecar.OneLine settings p context) {name : String} (hname : Text.OneLine name) :
    Sidecar.OneLine { settings with deploymentId := name }
      { p with id := name, host := name, roles := name :: p.roles } context where
  settings := { h.settings with deploymentId := hname }
  id := hname
  host := hname
  roles := List.forall_mem_cons.2 ⟨hname, h.roles⟩
  clientSecret := h.clientSecret
  cookieSecret := h.cookieSecret
  address := h.address

theorem isFullyChecked_iff (s : String) : IsFullyChecked s ↔
    ¬∃ cs, (HasSlugForm cs ∨ HasMailForm cs) ∧ s.toList = cs ++ ['\n'] := by
  constructor
  · rintro hfull ⟨cs, hform, heq⟩
    have haccepted : isSlug s ∨ isEmail s := by
      rcases hform with hform | hform
      · exact .inl (isSlug_iff.2 (.inr ⟨cs, hform, heq⟩))
      · exact .inr (isEmail_iff.2 (.inr ⟨cs, hform, heq⟩))
    have hmem : '\n' ∈ s.toList := by
      rw [heq]
      exact List.mem_append_right _ (List.mem_singleton_self _)
    exact hfull.not_lineEnd haccepted _ hmem (by decide)
  · intro hnone
    have hslug : isSlug s ↔ HasSlugForm s.toList := by
      rw [isSlug_iff, or_iff_left]
      exact fun ⟨cs, hform, heq⟩ => hnone ⟨cs, .inl hform, heq⟩
    have hemail : isEmail s ↔ HasMailForm s.toList := by
      rw [isEmail_iff, or_iff_left]
      exact fun ⟨cs, hform, heq⟩ => hnone ⟨cs, .inr hform, heq⟩
    have hunbroken : isSlug s ∨ isEmail s → Unbroken s.toList := by
      rintro (h | h)
      · exact (hslug.1 h).unbroken
      · exact (hemail.1 h).unbroken
    have honeLine : isSlug s → OneLine s := fun h hmem =>
      (hunbroken (.inl h)).not_isLineEnd hmem (by decide)
    exact ⟨hslug, hemail, fun h c hc => (hunbroken h).not_isLineEnd hc,
      fun h settings hdomain => Routing.oneLine_hostRule_iff.2 ⟨honeLine h, hdomain⟩,
      fun h settings p context hparts => (hparts.rename (honeLine h)).readsBack⟩

/-- With a line feed at the end a name and an address are accepted that have no form. The rule of
such a host goes over two lines, and so does the list of groups with such a role. -/
theorem accepted_with_line_feed :
    (isSlug "docs\n" ∧ ¬HasSlugForm "docs\n".toList) ∧
      (isEmail "ann@example.org\n" ∧ ¬HasMailForm "ann@example.org\n".toList) ∧
      (∀ (settings : Settings) (e : Endpoint), routeProblems [⟨"docs\n", e⟩] = [] ∧
        ¬OneLine (Routing.hostRule settings "docs\n")) ∧
      isSlug "dev\n" ∧
      (pieces '\n' (Policy.groups ["dev\n", "ops"]).toList).map String.ofList =
        ["dev", ",ops"] := by
  have haccepted : isSlug "docs\n" ∧ "docs\n" ∉ reservedHosts := by decide
  have hbroken : ¬OneLine "docs\n" := by decide
  refine ⟨⟨haccepted.1, fun h => ?_⟩, ⟨by decide, fun h => ?_⟩, fun settings e => ⟨?_, fun h => ?_⟩,
    by decide, by decide⟩
  · exact absurd (h.unbroken '\n' (by decide)) (by decide)
  · exact absurd (h.unbroken '\n' (by decide)) (by decide)
  · exact routeProblems_eq_nil_iff.2
      ⟨List.nodup_singleton _, List.forall_mem_singleton.2 haccepted⟩
  · exact hbroken (Routing.oneLine_hostRule_iff.1 h).1

end StackCompiler
