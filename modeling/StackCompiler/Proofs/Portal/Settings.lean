import StackCompiler.Machine
import StackCompiler.Portal.Settings
import StackCompiler.Proofs.Data.Entries
import StackCompiler.Proofs.Environment.File
import StackCompiler.Proofs.Session

/-!
# Settings with a descriptor

An environment that has all that the portal needs but a descriptor (`Settings.AwaitsDescriptor`)
has settings with the descriptor as soon as it is added (`Settings.ofEnvironment_append`).
-/

namespace StackCompiler

open Session

/-! ## Environments with one more variable -/

namespace Environment

variable {env : Environment} {name other value : String}

theorem get?_append_self (h : env.get? name = none) :
    get? (env ++ [(name, value)]) name = some value := by
  rw [get?, List.lookup_append, show env.lookup name = none from h, Option.none_or,
    List.lookup_cons_self]

theorem get?_append_of_ne (h : other ≠ name) :
    get? (env ++ [(name, value)]) other = env.get? other := by
  rw [get?, List.lookup_append, List.lookup_cons, beq_eq_false_iff_ne.2 h]
  exact Option.or_none

theorem nonempty?_append_of_ne (h : other ≠ name) :
    nonempty? (env ++ [(name, value)]) other = env.nonempty? other := by
  rw [nonempty?, nonempty?, get?_append_of_ne h]

/-- A variable that has no value is given the value, if the system takes it. -/
theorem inherit1_eq (h : env.get? name = none) : env.inherit1 name value =
    if isName name && isValue value then .ok (env ++ [(name, value)]) else .error .badValue := by
  rw [inherit1, h]
  rfl

end Environment

/-! ## Settings -/

namespace Portal.Settings

/-- Reads a file as an environment file, and then the settings. -/
def ofFile (env : Environment) (path : Path) : Machine.Action Settings := do
  load (← Session.ofExcept (EnvironmentFile.load env (← Machine.read path)))

/-- The environment has all that the portal needs but a descriptor. -/
structure AwaitsDescriptor (env : Environment) : Prop where
  required : ∀ name ∈ requiredVariables, (env.nonempty? name).isSome
  connect : ∃ n, integerOf env "LOGOUT_PROBE_CONNECT_TIMEOUT_MS" 300 = .ok n
  request : ∃ n, integerOf env "LOGOUT_PROBE_REQUEST_TIMEOUT_MS" 750 = .ok n
  unset : env.get? "PORTAL_DESCRIPTOR_JSON" = none
  enabled : ¬EnvironmentFile.isDisabled env

variable {env : Environment} {value : String}

theorem ofEnvironment_eq_ok {n m : Int}
    (hrequired : ∀ name ∈ requiredVariables, (env.nonempty? name).isSome)
    (hconnect : integerOf env "LOGOUT_PROBE_CONNECT_TIMEOUT_MS" 300 = .ok n)
    (hrequest : integerOf env "LOGOUT_PROBE_REQUEST_TIMEOUT_MS" 750 = .ok m) :
    ofEnvironment env = .ok {
      portalUrl := (env.get? "PORTAL_PUBLIC_URL").getD ""
      keycloakUrl := (env.get? "KEYCLOAK_PUBLIC_URL").getD ""
      realm := (env.get? "KEYCLOAK_REALM").getD ""
      environment := (env.get? "ENVIRONMENT").getD ""
      clientId := (env.get? "PORTAL_CLIENT_ID").getD "portal"
      proxyUrl := env.nonempty? "TRAEFIK_INTERNAL_URL"
      connectTimeout := n
      requestTimeout := m
      cookieDomain := env.nonempty? "COOKIE_DOMAIN"
      secureCookies := (env.get? "COOKIE_SECURE").any fun s => Text.lower s == "true"
      descriptorText := env.nonempty? "PORTAL_DESCRIPTOR_JSON"
      descriptorPath := env.nonempty? "PORTAL_DESCRIPTOR_PATH" } := by
  have hmissing : (requiredVariables.filter fun name => (env.nonempty? name).isNone) = [] := by
    refine List.filter_eq_nil_iff.2 fun name hname => ?_
    rw [Option.isNone_iff_eq_none]
    exact Option.isSome_iff_ne_none.1 (hrequired name hname)
  rw [ofEnvironment, hmissing]
  dsimp only
  rw [hconnect, hrequest]
  rfl

/-- A descriptor that is added to the environment is found in the settings. -/
theorem ofEnvironment_append (h : AwaitsDescriptor env) (value : String) :
    ∃ s, ofEnvironment (env ++ [("PORTAL_DESCRIPTOR_JSON", value)]) = .ok s ∧
      s.descriptorText = (some value).filter (!·.isEmpty) := by
  obtain ⟨n, hconnect⟩ := h.connect
  obtain ⟨m, hrequest⟩ := h.request
  have hown : Environment.nonempty? (env ++ [("PORTAL_DESCRIPTOR_JSON", value)])
      "PORTAL_DESCRIPTOR_JSON" = (some value).filter (!·.isEmpty) := by
    rw [Environment.nonempty?, Environment.get?_append_self h.unset]
  refine ⟨_, ofEnvironment_eq_ok (n := n) (m := m) ?_ ?_ ?_, hown⟩
  · intro name hname
    rw [Environment.nonempty?_append_of_ne (ne_of_mem_of_not_mem hname (by decide))]
    exact h.required name hname
  · rw [← hconnect, integerOf, integerOf, Environment.get?_append_of_ne (by decide)]
  · rw [← hrequest, integerOf, integerOf, Environment.get?_append_of_ne (by decide)]

theorem load_eq_ok {s : Settings} (h : ofEnvironment env = .ok s) (t : Trail Machine) :
    ∃ t', (load env).exec t = (.ok s, t') := by
  rw [load, exec_bind_of_ok (by rw [exec_ofExcept, h])]
  exact ⟨_, rfl⟩

/-- Variables that stand for one letter each. -/
def letterEnvironment : Environment := requiredVariables.map (·, "x")

theorem awaitsDescriptor_letterEnvironment : AwaitsDescriptor letterEnvironment where
  required := by decide
  connect := ⟨300, rfl⟩
  request := ⟨750, rfl⟩
  unset := by decide
  enabled := by decide

theorem frugal_letterEnvironment : EnvironmentFile.Frugal letterEnvironment := by
  intro name v hv
  obtain ⟨_, -, heq⟩ := List.mem_map.1 (mem_of_lookup_eq_some hv)
  rw [← (Prod.mk.inj heq).2]
  decide

end Portal.Settings

end StackCompiler
