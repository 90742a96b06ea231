import StackCompiler.Proofs.Routing
import StackCompiler.Proofs.Text.Ascii

/-!
# Requests in another order

The order in which routes are requested has no influence on the routing document, and if there are
problems, none on which problems are found and how often (`Routing.generate_of_perm`).
-/

namespace StackCompiler

/-! ## Problems of reordered hosts -/

section Problems

variable {seen seen' : List String}

/-- It matters which hosts came before a host, but not in which order they came. -/
theorem hostProblems_congr (h : ∀ x, x ∈ seen ↔ x ∈ seen') (host : String) :
    hostProblems seen host = hostProblems seen' host := by
  have hcontains : seen.contains host = seen'.contains host := by
    rw [Bool.eq_iff_iff, List.contains_iff_mem, List.contains_iff_mem, h]
  rw [hostProblems, hcontains, hostProblems]

theorem hostListProblems_congr {hosts : List String} (h : ∀ x, x ∈ seen ↔ x ∈ seen') :
    hostListProblems seen hosts = hostListProblems seen' hosts := by
  induction hosts generalizing seen seen' with
  | nil => rfl
  | cons host hosts ih =>
    have hcons : ∀ x, x ∈ host :: seen ↔ x ∈ host :: seen' := fun x => by
      rw [List.mem_cons, List.mem_cons, h]
    rw [hostListProblems, hostListProblems, hostProblems_congr h, ih hcons]

/-- A host that came before does not matter to another one. -/
theorem hostProblems_cons_of_ne {a b : String} (h : b ≠ a) :
    hostProblems (a :: seen) b = hostProblems seen b := by
  have hcontains : (a :: seen).contains b = seen.contains b := by
    rw [Bool.eq_iff_iff, List.contains_iff_mem, List.contains_iff_mem, List.mem_cons,
      or_iff_right h]
  rw [hostProblems, hcontains, hostProblems]

/-- Of two equal hosts the second one is the duplicate in either order; two distinct ones do not
see each other. -/
theorem hostProblems_swap (seen : List String) (a b : String) :
    (hostProblems seen a ++ hostProblems (a :: seen) b).Perm
      (hostProblems seen b ++ hostProblems (b :: seen) a) := by
  by_cases h : a = b
  · rw [h]
  · rw [hostProblems_cons_of_ne h, hostProblems_cons_of_ne (Ne.symm h)]
    exact List.perm_append_comm

theorem hostListProblems_perm {hosts hosts' : List String} (h : hosts.Perm hosts') :
    (hostListProblems seen hosts).Perm (hostListProblems seen hosts') := by
  induction h generalizing seen with
  | nil => exact .refl _
  | cons host _ ih =>
    rw [hostListProblems, hostListProblems]
    exact ih.append_left _
  | swap a b hosts =>
    have hrest :
        hostListProblems (a :: b :: seen) hosts = hostListProblems (b :: a :: seen) hosts :=
      hostListProblems_congr fun x => by
        rw [List.mem_cons, List.mem_cons, List.mem_cons, List.mem_cons, or_left_comm]
    rw [hostListProblems, hostListProblems, hostListProblems, hostListProblems, hrest,
      ← List.append_assoc, ← List.append_assoc]
    exact (hostProblems_swap seen b a).append_right _
  | trans _ _ ih₁ ih₂ => exact ih₁.trans ih₂

end Problems

namespace Routing

variable {s : Settings} {routes routes' : List RouteRequest}

/-- Requests with distinct slugs as hosts are sorted in one way, so that one document results. -/
theorem document_of_perm (h : routes.Perm routes') (hproblems : routeProblems routes = []) :
    document s routes = document s routes' := by
  obtain ⟨hhosts, hsound⟩ := routeProblems_eq_nil_iff.1 hproblems
  have hsorted : Text.sortById (·.host) routes = Text.sortById (·.host) routes' :=
    Text.sortById_eq_of_perm_of_isAscii h hhosts fun r hr => Text.isAscii_of_isSlug (hsound r hr).1
  rw [document, hsorted, document]

/-- From reordered requests the same document is generated, to the order of its entries; or the
same problems are reported, each as often as before. -/
theorem generate_of_perm (h : routes.Perm routes') :
    (∃ doc, generate s routes = .ok doc ∧ generate s routes' = .ok doc) ∨
      ∃ problems problems', generate s routes = .error (.badRoutes problems) ∧
        generate s routes' = .error (.badRoutes problems') ∧ problems.Perm problems' := by
  have hperm : (routeProblems routes).Perm (routeProblems routes') :=
    hostListProblems_perm (h.map _)
  cases hproblems : routeProblems routes with
  | nil =>
    have hproblems' : routeProblems routes' = [] := by
      rw [hproblems] at hperm
      exact hperm.nil_eq.symm
    refine .inl ⟨document s routes, generate_eq_ok_iff.2 ⟨hproblems, rfl⟩, ?_⟩
    exact generate_eq_ok_iff.2 ⟨hproblems', document_of_perm h hproblems⟩
  | cons p ps =>
    rw [hproblems] at hperm
    have hne : routeProblems routes' ≠ [] := fun hnil => by
      rw [hnil] at hperm
      exact absurd hperm.eq_nil (List.cons_ne_nil p ps)
    obtain ⟨p', ps', hproblems'⟩ := List.exists_cons_of_ne_nil hne
    refine .inr ⟨p :: ps, p' :: ps', ?_, ?_, hproblems' ▸ hperm⟩
    · rw [generate, hproblems]
    · rw [generate, hproblems']

/-! ## Requests with problems -/

def mixedSettings : Settings where
  deploymentId := "demo"
  environment := "local"
  realm := "main"

/-- A host twice, and then the host of a core service. -/
def mixedRequests : List RouteRequest :=
  [⟨"docs", "first", 80⟩, ⟨"docs", "second", 80⟩, ⟨"portal", "third", 80⟩]

/-- Backwards, the reserved host is reported before the repeated one. -/
theorem generate_mixedRequests :
    mixedRequests.Perm mixedRequests.reverse ∧
      ((∃ doc, generate mixedSettings mixedRequests = .ok doc ∧
          generate mixedSettings mixedRequests.reverse = .ok doc) ∨
        ∃ problems problems', generate mixedSettings mixedRequests = .error (.badRoutes problems) ∧
          generate mixedSettings mixedRequests.reverse = .error (.badRoutes problems') ∧
            problems.Perm problems') := by
  have hperm : mixedRequests.Perm mixedRequests.reverse := by decide
  exact ⟨hperm, generate_of_perm hperm⟩

end Routing
end StackCompiler
