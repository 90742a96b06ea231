import StackCompiler.Artifacts
import StackCompiler.Proofs.Data.Reading
import StackCompiler.Proofs.Session

/-!
# What compiling does

`Documents` are what the texts of artifacts are written from. Compiling succeeds just where each of
the documents can be generated, and then writes them (`Artifacts.exec_compile_eq_ok_iff`).
-/

namespace StackCompiler

open Session

/-- The documents that the artifacts of a stack are written from. -/
structure Documents where
  deployment : Deployment
  routing : Routing.Document
  realm : Realm.Document
  sidecars : List SidecarEnvironment
  descriptor : Descriptor

/-- The documents are those of a stack file and its secrets, and the artifacts are written from
them. -/
structure Documents.Make (docs : Documents) (hashing : Hashing) (f : StackFile) (secrets : Secrets)
    (a : Artifacts) : Prop where
  deployment : f.resolve = .ok docs.deployment
  routing : f.routingDocument docs.deployment = .ok docs.routing
  realm : f.realmDocument hashing secrets docs.deployment = .ok docs.realm
  sidecars : Sidecar.buildAll f.settings Catalog.builtIn docs.deployment secrets = .ok docs.sidecars
  descriptor : Descriptor.generate f.settings docs.deployment = .ok docs.descriptor
  inline : f.inlineDescriptor docs.descriptor = .ok a.inlineDescriptor
  routing_text : a.routing = Yaml.write docs.routing.toData
  realm_text : a.realm = docs.realm.text
  sidecar_texts : a.sidecars = docs.sidecars.map fun e => (e.id, e.text)
  descriptor_text : a.descriptor = docs.descriptor.text

/-- Whatever the secrets, a stack file has one descriptor. -/
theorem Documents.Make.descriptor_unique {docs docs' : Documents} {hashing hashing' : Hashing}
    {f : StackFile} {secrets secrets' : Secrets} {a b : Artifacts}
    (h : docs.Make hashing f secrets a) (h' : docs'.Make hashing' f secrets' b) :
    docs.descriptor = docs'.descriptor := by
  have hdeployment := Except.ok.inj (h.deployment.symm.trans h'.deployment)
  have hdescriptor := h.descriptor
  rw [hdeployment, h'.descriptor] at hdescriptor
  exact (Except.ok.inj hdescriptor).symm

namespace Artifacts

variable {σ : Type} {hashing : Hashing} {f : StackFile} {secrets : Secrets} {a : Artifacts}

/-- Checking only leaves notes. -/
theorem exec_check (f : StackFile) (t : Trail σ) :
    ∃ log, (check f).exec t = (.ok f.violations, ⟨t.state, log⟩) := by
  unfold check
  dsimp only
  split <;> exact ⟨_, rfl⟩

theorem exec_resolve (f : StackFile) (t : Trail σ) :
    ∃ log, (resolve f).exec t = (f.resolve, ⟨t.state, log⟩) := by
  obtain ⟨log, hcheck⟩ := exec_check f t
  exact ⟨log, by rw [resolve, exec_bind_of_ok hcheck, exec_ofExcept]⟩

theorem reads_resolve (f : StackFile) : Reads (resolve (σ := σ) f) := by
  intro t
  obtain ⟨log, hresolve⟩ := exec_resolve f t
  obtain ⟨log₀, hresolve₀⟩ := exec_resolve f ⟨t.state, []⟩
  rw [runFrom_eq, hresolve₀]
  exact ⟨log, hresolve⟩

/-- Compiling only leaves notes. -/
theorem reads_compile (hashing : Hashing) (f : StackFile) (secrets : Secrets) :
    Reads (compile (σ := σ) hashing f secrets) := by
  refine (reads_resolve f).bind fun d => ?_
  refine (reads_ofExcept _).bind fun routing => (reads_note _).bind fun _ => ?_
  refine (reads_ofExcept _).bind fun realm => (reads_note _).bind fun _ => ?_
  refine (reads_ofExcept _).bind fun sidecars => (reads_note _).bind fun _ => ?_
  refine (reads_ofExcept _).bind fun descriptor => ?_
  refine (reads_ofExcept _).bind fun inlineDescriptor => (reads_note _).bind fun _ => ?_
  exact reads_pure _

theorem exec_said_bind {α : Type} (level : Log.Level) (logger message : String)
    (g : Unit → Session σ α) (t : Trail σ) :
    (said level logger message >>= g).exec t = (g ()).exec ⟨t.state, t.log ++
      [⟨level, "stackgen.services." ++ logger, message, none, none, none⟩]⟩ := rfl

theorem eq_ok_of_exec_ofExcept_bind {α β : Type} {x : Except Failure α} {g : α → Session σ β}
    {t : Trail σ} {b : β} (h : ((ofExcept x >>= g).exec t).1 = .ok b) :
    ∃ v, x = .ok v ∧ ((g v).exec t).1 = .ok b := by
  rw [exec_bind, exec_ofExcept] at h
  cases x with
  | error e => cases h
  | ok v => exact ⟨v, rfl, h⟩

theorem exec_ofExcept_bind {α β : Type} {x : Except Failure α} {v : α} (h : x = .ok v)
    (g : α → Session σ β) (t : Trail σ) : (ofExcept x >>= g).exec t = (g v).exec t := by
  rw [exec_bind_of_ok (by rw [exec_ofExcept, h])]

/-- Artifacts come from the documents of the stack file, if all of them can be generated. -/
theorem exec_compile_eq_ok_iff {t : Trail σ} :
    ((compile hashing f secrets).exec t).1 = .ok a ↔
      ∃ docs : Documents, docs.Make hashing f secrets a := by
  obtain ⟨t₀, hresolve⟩ := exec_resolve f t
  constructor
  · intro h
    rw [compile, exec_bind, hresolve] at h
    cases hd : f.resolve with
    | error e =>
      rw [hd] at h
      cases h
    | ok d =>
      rw [hd] at h
      obtain ⟨routing, hrouting, h⟩ := eq_ok_of_exec_ofExcept_bind h
      obtain ⟨realm, hrealm, h⟩ := eq_ok_of_exec_ofExcept_bind h
      obtain ⟨sidecars, hsidecars, h⟩ := eq_ok_of_exec_ofExcept_bind h
      obtain ⟨descriptor, hdescriptor, h⟩ := eq_ok_of_exec_ofExcept_bind h
      obtain ⟨inline, hinline, h⟩ := eq_ok_of_exec_ofExcept_bind h
      cases h
      exact ⟨⟨d, routing, realm, sidecars, descriptor⟩,
        ⟨hd, hrouting, hrealm, hsidecars, hdescriptor, hinline, rfl, rfl, rfl, rfl⟩⟩
  · rintro ⟨docs, h⟩
    have ha : a = ⟨Yaml.write docs.routing.toData, docs.realm.text,
        docs.sidecars.map fun e => (e.id, e.text), docs.descriptor.text, a.inlineDescriptor⟩ := by
      rw [← h.routing_text, ← h.realm_text, ← h.sidecar_texts, ← h.descriptor_text]
    rw [h.deployment] at hresolve
    rw [compile, exec_bind_of_ok hresolve, exec_ofExcept_bind h.routing, exec_said_bind,
      exec_ofExcept_bind h.realm, exec_said_bind, exec_ofExcept_bind h.sidecars, exec_said_bind,
      exec_ofExcept_bind h.descriptor, exec_ofExcept_bind h.inline, exec_said_bind, exec_pure]
    exact congrArg Except.ok ha.symm

/-- All texts can be written, if all documents can be generated. -/
theorem exists_make {d : Deployment} {sidecars : List SidecarEnvironment} {descriptor : Descriptor}
    {inline : Option String} (hd : f.resolve = .ok d)
    (hrouting : (f.routingDocument d).toOption.isSome)
    (hrealm : (f.realmDocument hashing secrets d).toOption.isSome)
    (hsidecars : Sidecar.buildAll f.settings Catalog.builtIn d secrets = .ok sidecars)
    (hdescriptor : Descriptor.generate f.settings d = .ok descriptor)
    (hinline : f.inlineDescriptor descriptor = .ok inline) :
    ∃ (docs : Documents) (a : Artifacts), docs.Make hashing f secrets a ∧
      docs.sidecars = sidecars ∧ docs.descriptor = descriptor := by
  obtain ⟨routing, hrouting⟩ := exists_eq_ok_of_toOption_isSome hrouting
  obtain ⟨realm, hrealm⟩ := exists_eq_ok_of_toOption_isSome hrealm
  exact ⟨⟨d, routing, realm, sidecars, descriptor⟩, ⟨_, _, _, _, inline⟩,
    ⟨hd, hrouting, hrealm, hsidecars, hdescriptor, hinline, rfl, rfl, rfl, rfl⟩, rfl, rfl⟩

/-- A stack whose descriptor is delivered as a file is compiled, if all its documents can be
generated. -/
theorem exists_compile {d : Deployment} (hd : f.resolve = .ok d)
    (hinjection : f.settings.injection = .file)
    (hrouting : (f.routingDocument d).toOption.isSome)
    (hrealm : (f.realmDocument hashing secrets d).toOption.isSome)
    (hsidecars : (Sidecar.buildAll f.settings Catalog.builtIn d secrets).toOption.isSome)
    (hdescriptor : (Descriptor.generate f.settings d).toOption.isSome) (t : Trail σ) :
    ∃ a, ((compile hashing f secrets).exec t).1 = .ok a := by
  obtain ⟨sidecars, hsidecars⟩ := exists_eq_ok_of_toOption_isSome hsidecars
  obtain ⟨descriptor, hdescriptor⟩ := exists_eq_ok_of_toOption_isSome hdescriptor
  have hinline : f.inlineDescriptor descriptor = .ok none := by
    rw [StackFile.inlineDescriptor, hinjection]
  obtain ⟨docs, a, hmake, -⟩ := exists_make hd hrouting hrealm hsidecars hdescriptor hinline
  exact ⟨a, exec_compile_eq_ok_iff.2 ⟨docs, hmake⟩⟩

end Artifacts
end StackCompiler
