import Mathlib.Data.List.TakeWhile
import RpcLink.Native.Client
import RpcLink.Pipe.Client
import RpcLink.Proofs.Framing.Packets

/-!
Which configurations are accepted, and what a client can rely on that has one. The settings are
looked up each time that they are needed. So what is taken from them has to tell something whatever
they hold by then, just as what was given when the client was made.

A host and a client's name are refused if they are blank. A program is refused only if it is empty,
so one that is given as blanks goes through.
-/

namespace RpcLink

/-! ### Texts -/

namespace Text

/-- A text tells something: not all of it is white space. -/
def Tells (s : String) : Prop := ∃ ch ∈ s.toList, isBlank ch = false

theorem tells_iff {s : String} : Tells s ↔ allBlank s = false := by
  simp [Tells, allBlank]

instance (s : String) : Decidable (Tells s) := decidable_of_iff _ tells_iff.symm

theorem not_tells_empty : ¬ Tells "" := by decide

/-- A character that is no white space does not stand among the blanks at the beginning. -/
theorem mem_dropWhile_isBlank {ch : Char} {cs : List Char} (member : ch ∈ cs)
    (visible : isBlank ch = false) : ch ∈ cs.dropWhile isBlank := by
  rw [← List.takeWhile_append_dropWhile (p := isBlank) (l := cs), List.mem_append] at member
  refine member.resolve_left fun before => ?_
  rw [List.mem_takeWhile_imp before] at visible
  cases visible

/-- Trimming takes nothing away that tells something. -/
theorem tells_trim {s : String} (tells : Tells s) : Tells (trim s) := by
  obtain ⟨ch, member, visible⟩ := tells
  refine ⟨ch, ?_, visible⟩
  rw [trim, String.toList_ofList, trimChars, List.mem_reverse]
  refine mem_dropWhile_isBlank ?_ visible
  rw [List.mem_reverse]
  exact mem_dropWhile_isBlank member visible

end Text

/-- A setting tells something whatever is set, if its default does. -/
theorem Settings.tells_resolve (s : Settings) (key : String) {fallback : String}
    (tells : Text.Tells fallback) : Text.Tells (s.resolve key fallback) := by
  unfold resolve
  split
  · rename_i value found
    split
    · exact tells
    · rename_i told
      exact Text.tells_trim (Text.tells_iff.mpr (Bool.eq_false_iff.mpr told))
  · exact tells

namespace Config

/-! ### What is accepted -/

/-- What is asked of a configuration, given which paths exist. -/
structure Sound (c : Config) (pathExists : String → Bool) : Prop where
  program : ∀ p, c.program = some p → p ≠ ""
  host : ∀ h, c.host = some h → Text.Tells h
  client : Text.Tells c.client.name
  limit : 1 ≤ c.limit ∧ c.limit ≤ 2 ^ 32 - 1
  timeout : c.timeout ≠ some 0
  directory : ∀ path, c.directory = some path → pathExists path = true

section

variable {c : Config} {pathExists : String → Bool}

theorem maxLimit_eq : maxLimit = 2 ^ 32 - 1 := rfl

/-- There is no fault if a check finds none and those behind it do not. -/
theorem check_eq_none {p : Prop} [Decidable p] {fault : Fault} {behind : Option Fault} :
    (if p then some fault else behind) = none ↔ ¬ p ∧ behind = none := by
  split <;> simp [*]

/-- A configuration has a fault if something that is asked of it is missing. -/
theorem fault?_eq_none_iff : c.fault? pathExists = none ↔ c.Sound pathExists := by
  have program : ¬ c.program = some "" ↔ ∀ p, c.program = some p → p ≠ "" := by
    cases c.program <;> simp
  have host : ¬ c.host.any Text.allBlank = true ↔ ∀ h, c.host = some h → Text.Tells h := by
    cases c.host <;> simp [Text.tells_iff]
  have client : ¬ Text.allBlank c.client.name = true ↔ Text.Tells c.client.name := by
    simp [Text.tells_iff]
  have limit : ¬ (c.limit = 0 ∨ maxLimit < c.limit) ↔ 1 ≤ c.limit ∧ c.limit ≤ 2 ^ 32 - 1 := by
    rw [maxLimit_eq]
    omega
  rw [fault?, check_eq_none, check_eq_none, check_eq_none, check_eq_none, check_eq_none, program,
    host, client, limit]
  constructor
  · rintro ⟨program, host, client, limit, timeout, none⟩
    refine ⟨program, host, client, limit, timeout, fun path given => ?_⟩
    simpa [given] using none
  · rintro ⟨program, host, client, limit, timeout, found⟩
    refine ⟨program, host, client, limit, timeout, ?_⟩
    cases given : c.directory with
    | none => rfl
    | some path => simp [found path given]

theorem build_of_sound (sound : c.Sound pathExists) : c.build pathExists = .ok c := by
  rw [build, fault?_eq_none_iff.mpr sound]

theorem build_of_not_sound (unsound : ¬ c.Sound pathExists) :
    ∃ fault : Fault, c.build pathExists = .error (.invalidConfig fault.message) := by
  obtain ⟨fault, found⟩ := Option.ne_none_iff_exists'.mp (mt fault?_eq_none_iff.mp unsound)
  exact ⟨fault, by rw [build, found]⟩

theorem build_eq_ok_iff {a : Config} :
    c.build pathExists = .ok a ↔ c.Sound pathExists ∧ a = c := by
  constructor
  · intro accepted
    by_cases sound : c.Sound pathExists
    · rw [build_of_sound sound] at accepted
      exact ⟨sound, (Except.ok.inj accepted).symm⟩
    · obtain ⟨fault, refused⟩ := build_of_not_sound sound
      cases accepted.symm.trans refused
  · rintro ⟨sound, rfl⟩
    exact build_of_sound sound

/-- Whatever is made of a configuration is made of one that was accepted. -/
theorem accepted_of_made {α : Type} {make : Config → α} {made : α}
    (succeeded : (c.build pathExists >>= fun a => pure (make a)) = .ok made) :
    ∃ a, c.build pathExists = .ok a ∧ made = make a := by
  cases accepted : c.build pathExists with
  | error e => rw [accepted] at succeeded; cases succeeded
  | ok a => rw [accepted] at succeeded; cases succeeded; exact ⟨a, rfl, rfl⟩

end

/-! ### What a client can rely on -/

/-- What a client can rely on, whatever the settings hold when it looks. A command tells something
unless the program was given as blanks. -/
structure Usable (c : Config) : Prop where
  command : ∀ s, c.command s ≠ "" ∧
    (Text.Tells (c.command s) ↔ ∀ p, c.program = some p → Text.Tells p)
  host : ∀ s, Text.Tells (c.hostName s)
  client : Text.Tells c.client.name
  limit : 1 ≤ c.limit ∧ c.limit ≤ 2 ^ 32 - 1
  packets : ∀ payload : List UInt8,
    Framing.Packet.checkLength payload.length c.limit = .ok payload.length →
      ∃ packet, Framing.Packet.encode payload c.limit = .ok packet
  timeout : ∀ ns, c.timeout = some ns → 0 < ns

theorem Sound.usable {c : Config} {pathExists : String → Bool} (sound : c.Sound pathExists) :
    c.Usable where
  command s := by
    unfold command
    cases given : c.program with
    | some p => exact ⟨sound.program p given, by simp⟩
    | none =>
        have tells : Text.Tells (s.resolve Settings.programKey Settings.defaultProgram) :=
          s.tells_resolve _ (by decide)
        refine ⟨fun empty => Text.not_tells_empty (empty ▸ tells), fun _ => nofun, fun _ => tells⟩
  host s := by
    unfold hostName
    cases given : c.host with
    | some h => exact sound.host h given
    | none => exact s.tells_resolve _ (by decide)
  client := sound.client
  limit := sound.limit
  packets payload checked := by
    unfold Framing.Packet.checkLength at checked
    split at checked
    · cases checked
    · rename_i fits
      have := sound.limit
      refine ⟨_, Framing.Packet.encode_eq_ok_iff.mpr ⟨?_, ?_, ?_, rfl⟩⟩
      · omega
      · omega
      · unfold Framing.Packet.headerRange
        omega
  timeout ns given := by
    refine Nat.pos_of_ne_zero ?_
    rintro rfl
    exact sound.timeout given

/-- A configuration is accepted as it is if everything is there that is asked of it, and refused as
invalid otherwise; either kind of client is made of an accepted one only, and can rely on it. But
whoever gives a program of nothing but blanks gets it. -/
theorem accepted_configuration_is_usable (c : Config) (pathExists : String → Bool) :
    (c.Sound pathExists → c.build pathExists = .ok c) ∧
    (¬ c.Sound pathExists → ∃ fault : Fault,
      c.build pathExists = .error (.invalidConfig fault.message)) ∧
    (∀ a, c.build pathExists = .ok a → a = c ∧ a.Usable) ∧
    (∀ s client, Pipe.Client.build c s pathExists = .ok client →
      client.config = c ∧ client.config.Usable) ∧
    (∀ s client, Native.Client.build c s pathExists = .ok client →
      client.config = c ∧ client.config.Usable) := by
  have usable : ∀ a, c.build pathExists = .ok a → a = c ∧ a.Usable := by
    intro a accepted
    obtain ⟨sound, rfl⟩ := build_eq_ok_iff.mp accepted
    exact ⟨rfl, sound.usable⟩
  refine ⟨build_of_sound, build_of_not_sound, usable, fun s client made => ?_,
    fun s client made => ?_⟩
  · obtain ⟨a, accepted, rfl⟩ := accepted_of_made made
    exact usable a accepted
  · obtain ⟨a, accepted, rfl⟩ := accepted_of_made made
    exact usable a accepted

/-- A program of one blank is accepted, and under no settings does its command tell something. -/
theorem blank_program_is_accepted :
    let c : Config := { program := some " " }
    c.build (fun _ => true) = .ok c ∧ ∀ s, ¬ Text.Tells (c.command s) := by
  refine ⟨rfl, fun s => ?_⟩
  show ¬ Text.Tells " "
  decide

end Config

end RpcLink
