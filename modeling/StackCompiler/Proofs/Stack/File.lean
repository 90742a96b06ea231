import StackCompiler.Proofs.Data.Reading
import StackCompiler.Stack.File

/-!
# Stack files that were read

`StackFile.WellFormed` says what holds of every stack file that was read from data, whatever the
data (`StackFile.wellFormed_of_ofData`): the names in the settings are slugs, and services and users
are declared once.
-/

namespace StackCompiler

open Decoded

/-! ## Settings -/

theorem Settings.isSlug_of_slug {d : Data} {s : String} (h : Settings.slug d = .ok s) :
    Text.isSlug s := by
  obtain ⟨a, -, ha⟩ := andThen_eq_ok.1 h
  split at ha
  · cases ha
    assumption
  · cases ha

/-- What holds of all settings that were read. -/
structure Settings.WellFormed (s : Settings) : Prop where
  deploymentId_slug : Text.isSlug s.deploymentId
  environment_slug : Text.isSlug s.environment
  certifiable : s.certifiable

theorem Settings.wellFormed_of_decode {fs : Decode.Fields} {s : Settings}
    (h : Settings.decode fs = .ok s) : s.WellFormed := by
  obtain ⟨s', hfields, hs⟩ := andThen_eq_ok.1 h
  split at hs
  · rename_i hcertifiable
    cases hs
    simp only [decodeFields, seq_eq_ok, fmap_eq_ok] at hfields
    -- The identifier and the environment are the innermost two of the twelve fields.
    obtain ⟨_, _, ⟨_, _, ⟨_, _, ⟨_, _, ⟨_, _, ⟨_, _, ⟨_, _, ⟨_, _, ⟨_, _, ⟨_, _, ⟨_, _,
      ⟨_, hid, rfl⟩, henvironment, rfl⟩, -, rfl⟩, -, rfl⟩, -, rfl⟩, -, rfl⟩, -, rfl⟩, -, rfl⟩,
      -, rfl⟩, -, rfl⟩, -, rfl⟩, -, rfl⟩ := hfields
    obtain ⟨_, hid⟩ := Decode.exists_of_required hid
    obtain ⟨_, henvironment⟩ := Decode.exists_of_required henvironment
    exact ⟨isSlug_of_slug hid, isSlug_of_slug henvironment, hcertifiable⟩
  · cases hs

/-! ## Declarations -/

theorem Declaration.usernames_nodup_of_repeatedUsername? : ∀ {us : List UserEntry} {seen},
    repeatedUsername? seen us = none →
      (us.map (·.username)).Nodup ∧ ∀ name ∈ us.map (·.username), name ∉ seen
  | [], _, _ => by simp
  | u :: us, seen, h => by
    unfold repeatedUsername? at h
    split at h
    · cases h
    · rename_i hnew
      obtain ⟨hnodup, hunseen⟩ := usernames_nodup_of_repeatedUsername? h
      rw [List.map_cons, List.nodup_cons]
      refine ⟨⟨fun hmem => hunseen _ hmem (List.mem_cons_self ..), hnodup⟩, ?_⟩
      intro name hname
      rcases List.mem_cons.1 hname with rfl | hname
      · simpa using hnew
      · exact fun hseen => hunseen name hname (List.mem_cons_of_mem _ hseen)

/-- What holds of all declarations that were read. -/
structure Declaration.WellFormed (d : Declaration) : Prop where
  services_nodup : (d.services.map (·.1)).Nodup
  usernames_nodup : (d.users.map (·.username)).Nodup

theorem Declaration.services_nodup_of_decodeServices {d : Data}
    {services : List (String × ServiceEntry)} (h : decodeServices d = .ok services) :
    (services.map (·.1)).Nodup := by
  unfold decodeServices at h
  split at h
  · cases h
    exact List.nodup_nil
  · exact keys_nodup_of_mapping h

theorem Declaration.wellFormed_of_decode {fs : Decode.Fields} {d : Declaration}
    (h : Declaration.decode fs = .ok d) : d.WellFormed := by
  obtain ⟨d', hfields, hd⟩ := andThen_eq_ok.1 h
  split at hd
  · cases hd
  · rename_i hrepeated
    cases hd
    refine ⟨?_, (usernames_nodup_of_repeatedUsername? hrepeated).1⟩
    simp only [seq_eq_ok, fmap_eq_ok] at hfields
    obtain ⟨_, services, ⟨_, _, ⟨_, -, rfl⟩, -, rfl⟩, hservices, rfl⟩ := hfields
    rcases Decode.exists_of_optional hservices with rfl | ⟨_, hservices⟩
    · exact List.nodup_nil
    · exact services_nodup_of_decodeServices hservices

/-! ## Stack files -/

/-- What holds of all stack files that were read. -/
structure StackFile.WellFormed (f : StackFile) : Prop where
  settings : f.settings.WellFormed
  declaration : f.declaration.WellFormed

theorem StackFile.wellFormed_of_ofData {source : String} {d : Data} {f : StackFile}
    (h : StackFile.ofData source d = .ok f) : f.WellFormed := by
  cases d with
  | map entries =>
    dsimp only [StackFile.ofData] at h
    obtain ⟨settingsEntries, -, h⟩ := bind_eq_ok.1 h
    obtain ⟨credentialEntries, -, h⟩ := bind_eq_ok.1 h
    obtain ⟨fs, -, h⟩ := bind_eq_ok.1 h
    obtain ⟨settings, hsettings, h⟩ := bind_eq_ok.1 h
    obtain ⟨own, -, h⟩ := bind_eq_ok.1 h
    obtain ⟨credentials, -, h⟩ := bind_eq_ok.1 h
    obtain ⟨declaration, hdeclaration, h⟩ := bind_eq_ok.1 h
    cases h
    exact ⟨Settings.wellFormed_of_decode (toExcept_eq_ok.1 hsettings),
      Declaration.wellFormed_of_decode (toExcept_eq_ok.1 hdeclaration)⟩
  | scalar _ | list _ | set _ =>
    obtain ⟨_, hthrow, -⟩ := bind_eq_ok.1 h
    cases hthrow

end StackCompiler
