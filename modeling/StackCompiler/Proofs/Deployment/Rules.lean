import StackCompiler.Artifacts
import StackCompiler.Proofs.Deployment.Exhaustive
import StackCompiler.Proofs.Stack.File

/-!
# What validation guarantees

A stack file resolves just where its declaration is valid and its passwords can be used
(`StackFile.resolve_eq_ok_iff`). Its services then keep all rules (`StackFile.sound_of_resolve`),
each declared once.
-/

namespace StackCompiler

/-! ## Deployments that resolved -/

/-- The rules that a service keeps by itself. -/
structure Service.Sound (known : List String) (s : Service) : Prop where
  known : s.id ∈ known
  id_slug : Text.isSlug s.id
  host_slug : Text.isSlug s.host
  host_unreserved : s.host ∉ reservedHosts
  free_iff : s.access = .free ↔ s.roles = []

theorem Service.Sound.host_ne_empty {known : List String} {s : Service} (h : s.Sound known) :
    s.host ≠ "" := by
  intro heq
  have := h.host_slug
  rw [heq] at this
  exact absurd this (by decide)

/-- What the services of a deployment that resolved are like. Only where the roles were declared
are they known to be slugs. -/
structure Deployment.Sound (known : List String) (d : Deployment) : Prop where
  services : ∀ s ∈ d.services, s.Sound known
  ids_nodup : (d.services.map (·.id)).Nodup
  roles_slug : d.rolesExplicit → ∀ s ∈ d.services, ∀ r ∈ s.roles, Text.isSlug r

/-- The ids of the services that have a sidecar. -/
def Deployment.protectedIds (d : Deployment) : List String :=
  (d.services.filter (·.hasSidecar)).map (·.id)

theorem Declaration.ids_resolve_perm (environment : String) (d : Declaration) :
    ((d.resolve environment).services.map (·.id)).Perm (d.services.map (·.1)) := by
  change (((Text.sortById (·.1) d.services).map fun e => e.2.resolve e.1).map (·.id)).Perm _
  rw [List.map_map]
  exact Text.map_sortById_perm _ _ _

namespace StackFile

variable {f : StackFile} {d : Deployment}

theorem resolve_eq_ok_iff :
    f.resolve = .ok d ↔ f.declaration.Valid Catalog.builtIn.ids f.settings.environment ∧
      f.declaration.passwordViolations = [] ∧
        d = f.declaration.resolve f.settings.environment := by
  have hviolations : f.violations = [] ↔
      f.declaration.Valid Catalog.builtIn.ids f.settings.environment ∧
        f.declaration.passwordViolations = [] := by
    rw [violations, List.append_eq_nil_iff, Declaration.violations_eq_nil_iff]
  rw [← and_assoc, ← hviolations, resolve]
  cases f.violations with
  | nil => simp [eq_comm]
  | cons v vs => simp

/-- A declaration whose services are all in the catalog resolves if it keeps the other rules. -/
theorem resolve_of_known
    (hd : f.declaration.resolve f.settings.environment = d)
    (hknown : ∀ s ∈ d.services, s.id ∈ Catalog.builtIn.map (·.1))
    (hrest : d.invalidNames ++ d.claimedHosts ++ d.unfitAccess ++ d.rolesNotAllowed ++
      d.invalidUsers ++ f.declaration.invalidRoles ++ d.sharedHosts ++
      f.declaration.passwordViolations = []) : f.resolve = .ok d := by
  have hunknown : d.unknownServices (Text.sortIds Catalog.builtIn.ids) = [] := by
    rw [Deployment.unknownServices, List.filterMap_eq_nil_iff]
    exact fun s hs => if_pos (by simpa [Catalog.ids] using hknown s hs)
  simp only [List.append_eq_nil_iff] at hrest
  obtain ⟨⟨⟨⟨⟨⟨⟨hnames, hclaimed⟩, hunfit⟩, hallowed⟩, husers⟩, hroles⟩, hshared⟩, hpasswords⟩ :=
    hrest
  refine resolve_eq_ok_iff.2 ⟨Declaration.violations_eq_nil_iff.1 ?_, hpasswords, hd.symm⟩
  simp only [Declaration.violations, hd, List.append_eq_nil_iff]
  exact ⟨⟨⟨⟨⟨⟨⟨hunknown, hnames⟩, hclaimed⟩, hunfit⟩, hallowed⟩, husers⟩, hroles⟩, hshared⟩

theorem sound_of_resolve (hf : f.WellFormed) (h : f.resolve = .ok d) :
    d.Sound (Catalog.builtIn.map (·.1)) := by
  obtain ⟨hvalid, -, rfl⟩ := resolve_eq_ok_iff.1 h
  refine ⟨fun s hs => ?_, ?_, fun hexplicit s hs r hr => ?_⟩
  · exact ⟨by simpa [Catalog.ids] using (hvalid.ids s hs).1, (hvalid.ids s hs).2,
      (hvalid.hosts s hs).1, (hvalid.hosts s hs).2, hvalid.access s hs⟩
  · exact (f.declaration.ids_resolve_perm _).nodup_iff.2 hf.declaration.services_nodup
  · obtain ⟨listed, hlisted⟩ := Option.isSome_iff_exists.1 hexplicit
    obtain ⟨hslug, -, hallowed⟩ := hvalid.declared listed hlisted
    exact hslug r (hallowed s hs r hr)

end StackFile
end StackCompiler
