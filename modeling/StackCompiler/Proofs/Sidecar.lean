import StackCompiler.Proofs.Data.Reading
import StackCompiler.Sidecar

/-!
# The variables of sidecars

Each sidecar that was built belongs to one policy, and its variables are those of the policy with
the secrets that were given for it (`exists_sidecar`). A variable is found by its short name.
-/

namespace StackCompiler

namespace Sidecar

variable {s : Settings} {catalog : Catalog} {d : Deployment} {secrets : Secrets}
  {es : List SidecarEnvironment} {p : Policy}

/-! ## Variables -/

/-- The variables with their full names. -/
def environmentOf (s : Settings) (p : Policy) (context : Context) : SidecarEnvironment :=
  ⟨p.id, (entries s p context).map fun (k, v) => (SidecarEnvironment.nameStart ++ k, v)⟩

theorem lookup_map_start {start k : String} : ∀ {entries : List (String × String)},
    (entries.map fun e => (start ++ e.1, e.2)).lookup (start ++ k) = entries.lookup k
  | [] => rfl
  | (k', v) :: entries => by
    have hkey : (start ++ k == start ++ k') = (k == k') := by
      rw [Bool.eq_iff_iff, beq_iff_eq, beq_iff_eq]
      exact String.append_right_inj start
    rw [List.map_cons, List.lookup_cons, List.lookup_cons, hkey, lookup_map_start]

theorem get?_environmentOf {context : Context} {name : String}
    (hname : SidecarEnvironment.fullName name = SidecarEnvironment.nameStart ++ name) :
    (environmentOf s p context).get? name = (entries s p context).lookup name := by
  rw [SidecarEnvironment.get?, hname]
  exact lookup_map_start

/-! ## Building -/

theorem build_eq_ok {context : Context} {e : SidecarEnvironment} (h : build s p context = .ok e) :
    e = environmentOf s p context := by
  unfold build at h
  split at h
  · cases h
  · split at h
    · cases h
    · cases h
      rfl

theorem contextOf_eq_ok_iff {context : Context} :
    contextOf s catalog secrets p = .ok context ↔ ∃ port, catalog.port? p.id = some port ∧
      context = {
        clientSecret := (secrets.clientSecrets.lookup p.id).getD ""
        cookieSecret := (secrets.cookieSecrets.lookup p.id).getD ""
        endpoint := ⟨s.container p.id, port⟩ } := by
  unfold contextOf
  cases catalog.port? p.id with
  | none => simp
  | some port => simp [eq_comm]

theorem ids_of_buildAll (h : buildAll s catalog d secrets = .ok es) :
    es.map (·.id) = d.guardedIds := by
  refine map_eq_map_of_mapM (fun p e he => ?_) h
  obtain ⟨context, -, hbuild⟩ := bind_eq_ok.1 he
  rw [build_eq_ok hbuild]
  rfl

/-- The sidecar of a policy, with its secrets and the application behind it. -/
theorem exists_sidecar (h : buildAll s catalog d secrets = .ok es) (hp : p ∈ d.policies) :
    ∃ port cookieSecret, catalog.port? p.id = some port ∧
      environmentOf s p {
        clientSecret := (secrets.clientSecrets.lookup p.id).getD ""
        cookieSecret
        endpoint := ⟨s.container p.id, port⟩ } ∈ es := by
  obtain ⟨e, he, heq⟩ := exists_mem_of_mapM_eq_ok h p hp
  obtain ⟨context, hcontext, hbuild⟩ := bind_eq_ok.1 heq
  obtain ⟨port, hport, rfl⟩ := contextOf_eq_ok_iff.1 hcontext
  exact ⟨port, _, hport, build_eq_ok hbuild ▸ he⟩

end Sidecar
end StackCompiler
