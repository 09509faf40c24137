import Mathlib.Data.List.Induction
import RpcLink.Config.Hosts
import RpcLink.Proofs.Config.Accepted

/-!
What is found after the settings and the registered hosts have changed, any number of times. A
setting is what was put under its name last, if it was not removed since, and a host is started by
the command that was registered for it last. Nothing of what was found before plays a part.
-/

namespace RpcLink

/-! ### Trimmed texts -/

namespace Text

/-- A text is what is left of another one without the blanks at its two ends. -/
structure Trims (s t : String) : Prop where
  parts : ∃ front back, s.toList = front ++ (t.toList ++ back) ∧
    (∀ ch ∈ front, isBlank ch = true) ∧ ∀ ch ∈ back, isBlank ch = true
  first : ∀ ch ∈ t.toList.head?, isBlank ch = false
  last : ∀ ch ∈ t.toList.getLast?, isBlank ch = false

theorem dropWhile_blanks {front rest : List Char} (blank : ∀ ch ∈ front, isBlank ch = true)
    (first : ∀ ch ∈ rest.head?, isBlank ch = false) :
    (front ++ rest).dropWhile isBlank = rest := by
  rw [List.dropWhile_append_of_pos blank]
  cases rest with
  | nil => rfl
  | cons ch rest => exact List.dropWhile_cons_of_neg (by simp [first ch rfl])

theorem not_isBlank_of_head (cs : List Char) {ch : Char}
    (first : ch ∈ (cs.dropWhile isBlank).head?) : isBlank ch = false := by
  have visible := List.head?_dropWhile_not isBlank cs
  rw [Option.mem_def.mp first] at visible
  exact visible

theorem trims_trim (s : String) : Trims s (trim s) := by
  obtain ⟨back, trimmed, shape, blank, last⟩ : ∃ back trimmed : List Char,
      (s.toList.dropWhile isBlank).reverse = back ++ trimmed ∧ (∀ ch ∈ back, isBlank ch = true) ∧
        trimmed = (s.toList.dropWhile isBlank).reverse.dropWhile isBlank :=
    ⟨_, _, List.takeWhile_append_dropWhile.symm, fun _ => List.mem_takeWhile_imp, rfl⟩
  have text : (trim s).toList = trimmed.reverse := by
    rw [trim, String.toList_ofList, trimChars, last]
  have rest : s.toList.dropWhile isBlank = trimmed.reverse ++ back.reverse := by
    rw [← List.reverse_append, ← shape, List.reverse_reverse]
  constructor
  case parts =>
    refine ⟨s.toList.takeWhile isBlank, back.reverse, ?_, fun _ => List.mem_takeWhile_imp, ?_⟩
    · rw [text, ← rest, List.takeWhile_append_dropWhile]
    · simpa using blank
  case first =>
    intro ch first
    refine not_isBlank_of_head s.toList ?_
    rw [text] at first
    rw [rest, List.head?_append, Option.mem_def.mp first]
    rfl
  case last =>
    intro ch final
    rw [text, List.getLast?_reverse, last] at final
    exact not_isBlank_of_head _ final

/-- There is one way to trim a text. -/
theorem trims_iff {s t : String} : Trims s t ↔ trim s = t := by
  constructor
  · rintro ⟨⟨front, back, shape, before, behind⟩, first, last⟩
    rw [← String.toList_inj, trim, String.toList_ofList, trimChars, shape]
    cases text : t.toList with
    | nil =>
        have nothing : (front ++ back).dropWhile isBlank = [] := by
          rw [List.dropWhile_eq_nil_iff]
          exact fun ch member => (List.mem_append.mp member).elim (before ch) (behind ch)
        rw [List.nil_append, nothing]
        rfl
    | cons ch rest =>
        have first' : ∀ c ∈ (ch :: rest ++ back).head?, isBlank c = false :=
          fun c head => first c (by rw [text]; exact head)
        have last' : ∀ c ∈ (ch :: rest).reverse.head?, isBlank c = false :=
          fun c head => last c (by rwa [text, ← List.head?_reverse])
        have behind' : ∀ c ∈ back.reverse, isBlank c = true := by simpa using behind
        rw [dropWhile_blanks before first', List.reverse_append, dropWhile_blanks behind' last',
          List.reverse_reverse]
  · rintro rfl
    exact trims_trim s

end Text

/-! ### Settings -/

theorem NamedTexts.get?_remove (t : NamedTexts) (name key : String) :
    (t.remove name).get? key = if name = key then none else t.get? key := by
  obtain ⟨entries⟩ := t
  show (entries.filter _).lookup key = if name = key then none else entries.lookup key
  induction entries with
  | nil => simp
  | cons entry rest ih =>
      by_cases gone : entry.1 = name
      · rw [List.filter_cons_of_neg (by simpa using gone), ih]
        split
        · rfl
        · rename_i other
          have elsewhere : (key == entry.1) = false :=
            beq_false_of_ne fun same => other (gone.symm.trans same.symm)
          rw [List.lookup_cons, elsewhere]
      · rw [List.filter_cons_of_pos (by simpa using gone), List.lookup_cons, List.lookup_cons, ih]
        split
        · rename_i here
          rw [if_neg fun same => gone (by rw [same, eq_of_beq here])]
        · rfl

theorem NamedTexts.get?_put (t : NamedTexts) (name key : String) (value : Option String) :
    (t.put name value).get? key = if name = key then value else t.get? key := by
  cases value with
  | none => exact t.get?_remove name key
  | some value =>
      show ((name, value) :: (t.remove name).entries).lookup key = _
      rw [List.lookup_cons]
      split
      · rename_i here
        rw [if_pos (eq_of_beq here).symm]
      · rename_i other
        have apart : name ≠ key := fun same => by simp [same] at other
        rw [if_neg apart]
        exact (t.get?_remove name key).trans (if_neg apart)

namespace Settings

/-- The name under which a setting is looked up, if it is looked up at all. -/
def nameOf : Settings → String → Option String
  | .stored _, key => some key
  | .environment _, key => variableOf key

/-- The texts among which settings are looked up. -/
def texts : Settings → NamedTexts
  | .stored values => values
  | .environment vars => vars

theorem get?_eq_bind (s : Settings) (key : String) :
    s.get? key = (s.nameOf key).bind s.texts.get? := by
  cases s <;> rfl

theorem nameOf_put (s : Settings) (name : String) (value : Option String) :
    (s.put name value).nameOf = s.nameOf := by
  cases s <;> rfl

theorem texts_put (s : Settings) (name : String) (value : Option String) :
    (s.put name value).texts = s.texts.put name value := by
  cases s <;> rfl

/-- Which text counts, where one may be given, and one may be set: the given one as it is, or else
the one that is set, trimmed, if it tells something, or else a default. -/
inductive Counts (given setting : Option String) (fallback : String) : String → Prop where
  | given {text : String} (told : given = some text) : Counts given setting fallback text
  | set {value text : String} (free : given = none) (there : setting = some value)
      (tells : Text.Tells value) (trims : Text.Trims value text) :
      Counts given setting fallback text
  | fallback (free : given = none) (nothing : ∀ value, setting = some value → ¬ Text.Tells value) :
      Counts given setting fallback fallback

theorem Counts.unique {given setting : Option String} {fallback text text' : String}
    (first : Counts given setting fallback text) (second : Counts given setting fallback text') :
    text = text' := by
  cases first with
  | given told =>
      cases second with
      | given told' => exact Option.some.inj (told.symm.trans told')
      | set free => cases told.symm.trans free
      | fallback free => cases told.symm.trans free
  | set free there tells trims =>
      cases second with
      | given told => cases told.symm.trans free
      | set _ there' _ trims' =>
          obtain rfl := Option.some.inj (there.symm.trans there')
          exact (Text.trims_iff.mp trims).symm.trans (Text.trims_iff.mp trims')
      | fallback _ nothing => exact absurd tells (nothing _ there)
  | fallback free nothing =>
      cases second with
      | given told => cases told.symm.trans free
      | set _ there tells => exact absurd tells (nothing _ there)
      | fallback => rfl

theorem counts_getD_resolve (s : Settings) (given : Option String) (key fallback : String) :
    Counts given (s.get? key) fallback (given.getD (s.resolve key fallback)) := by
  cases given with
  | some text => exact .given rfl
  | none =>
      unfold resolve
      rw [Option.getD_none]
      split
      · rename_i value there
        split
        · rename_i blank
          refine .fallback rfl fun other same tells => ?_
          rw [there] at same
          rw [Option.some.inj same, Text.tells_iff.mp tells] at blank
          cases blank
        · rename_i told
          exact .set rfl there (Text.tells_iff.mpr (Bool.eq_false_iff.mpr told))
            (Text.trims_trim value)
      · rename_i missing
        exact .fallback rfl fun value there => nomatch missing.symm.trans there

end Settings

namespace Config

variable {c : Config} {s : Settings} {text : String}

theorem command_eq_iff :
    c.command s = text ↔
      Settings.Counts c.program (s.get? Settings.programKey) Settings.defaultProgram text :=
  have counts := s.counts_getD_resolve c.program Settings.programKey Settings.defaultProgram
  ⟨fun same => same ▸ counts, counts.unique⟩

theorem hostName_eq_iff :
    c.hostName s = text ↔
      Settings.Counts c.host (s.get? Settings.hostKey) Settings.defaultHost text :=
  have counts := s.counts_getD_resolve c.host Settings.hostKey Settings.defaultHost
  ⟨fun same => same ▸ counts, counts.unique⟩

end Config

/-! ### Hosts -/

/-- How a host is started, given the command that was registered for its name, if one was, and the
server's program. -/
inductive Launches (c : Config) (program name : String) :
    Option HostCommand → Except Failure Launch → Prop where
  | own {p : String} {arguments : List String} :
      Launches c program name (some ⟨some p, arguments⟩) (.ok ⟨p, arguments⟩)
  | bare {arguments : List String} :
      Launches c program name (some ⟨none, arguments⟩) (.ok ⟨program, arguments⟩)
  | standard (default : name = Settings.defaultHost) (anywhere : c.directory = none) :
      Launches c program name none (.ok ⟨program, ["native-host"]⟩)
  | inside {path : String} (default : name = Settings.defaultHost)
      (given : c.directory = some path) :
      Launches c program name none (.ok ⟨program, ["native-host", "--workspace-root", path]⟩)
  | unknown (other : name ≠ Settings.defaultHost) :
      Launches c program name none (.error (.hostNotFound name))

theorem Hosts.launch_eq_iff {h : Hosts} {c : Config} {s : Settings} {name : String}
    {launch : Except Failure Launch} :
    h.launch c s name = launch ↔
      Launches c (c.command s) name (h.entries.lookup name) launch := by
  unfold Hosts.launch
  cases h.entries.lookup name with
  | some command =>
      obtain ⟨program, arguments⟩ := command
      constructor
      · rintro rfl
        cases program with
        | some p => exact .own
        | none => exact .bare
      · intro launches
        cases launches <;> rfl
  | none =>
      dsimp only
      constructor
      · rintro rfl
        split
        · rename_i default
          unfold Hosts.defaultArguments
          cases given : c.directory with
          | none => exact .standard default given
          | some path => exact .inside default given
        · rename_i other
          exact .unknown other
      · intro launches
        cases launches with
        | standard default anywhere => rw [if_pos default, Hosts.defaultArguments, anywhere]
        | inside default given => rw [if_pos default, Hosts.defaultArguments, given]
        | unknown other => rw [if_neg other]

/-! ### Changes -/

/-- What is found in the newest entry of a history that has something to be found. -/
def newest? {α β : Type} (find : α → Option β) (history : List α) : Option β :=
  history.reverse.findSome? find

theorem newest?_concat {α β : Type} (find : α → Option β) (history : List α) (last : α) :
    newest? find (history ++ [last]) = (find last).or (newest? find history) := by
  rw [newest?, newest?, List.reverse_append, List.reverse_singleton, List.singleton_append,
    List.findSome?_cons]
  cases find last <;> rfl

/-- A change of where servers and hosts are found. -/
inductive Change where
  /-- A text is put where the settings are looked up, or what is there is removed. -/
  | put (name : String) (value : Option String)
  | register (name : String) (command : HostCommand)

namespace Change

/-- What a change leaves under a name where the settings are looked up, if it is about that name. -/
def valueOf (name : String) : Change → Option (Option String)
  | .put name' value => if name' = name then some value else none
  | .register .. => none

/-- The command that a change registers for a name, if it registers one for that name. -/
def commandOf (name : String) : Change → Option HostCommand
  | .put .. => none
  | .register name' command => if name' = name then some command else none

end Change

/-- Where servers and hosts are found. -/
structure Whereabouts where
  settings : Settings
  hosts : Hosts := {}

namespace Whereabouts

def change (w : Whereabouts) : Change → Whereabouts
  | .put name value => { w with settings := w.settings.put name value }
  | .register name command => { w with hosts := w.hosts.register name command }

def changeAll (w : Whereabouts) (changes : List Change) : Whereabouts := changes.foldl change w

/-- A setting after changes: what was put under its name last, or else what was there before. -/
def settingAfter (w : Whereabouts) (changes : List Change) (key : String) : Option String :=
  (w.settings.nameOf key).bind fun name =>
    (newest? (Change.valueOf name) changes).getD (w.settings.texts.get? name)

variable (w : Whereabouts) (changes : List Change)

theorem changeAll_concat (last : Change) :
    w.changeAll (changes ++ [last]) = (w.changeAll changes).change last :=
  List.foldl_concat ..

theorem nameOf_changeAll : (w.changeAll changes).settings.nameOf = w.settings.nameOf := by
  induction changes using List.reverseRecOn with
  | nil => rfl
  | append_singleton changes last ih =>
      rw [changeAll_concat]
      cases last with
      | put name value => exact (Settings.nameOf_put ..).trans ih
      | register name command => exact ih

theorem texts_changeAll (name : String) :
    (w.changeAll changes).settings.texts.get? name =
      (newest? (Change.valueOf name) changes).getD (w.settings.texts.get? name) := by
  induction changes using List.reverseRecOn with
  | nil => rfl
  | append_singleton changes last ih =>
      rw [changeAll_concat, newest?_concat]
      cases last with
      | put name' value =>
          show ((w.changeAll changes).settings.put name' value).texts.get? name = _
          rw [Settings.texts_put, NamedTexts.get?_put, ih, Change.valueOf]
          split <;> rfl
      | register name' command => exact ih

theorem get?_changeAll (key : String) :
    (w.changeAll changes).settings.get? key = w.settingAfter changes key := by
  rw [Settings.get?_eq_bind, nameOf_changeAll, settingAfter]
  exact congrArg _ (funext fun name => w.texts_changeAll changes name)

theorem lookup_changeAll (name : String) :
    (w.changeAll changes).hosts.entries.lookup name =
      (newest? (Change.commandOf name) changes).or (w.hosts.entries.lookup name) := by
  induction changes using List.reverseRecOn with
  | nil => rfl
  | append_singleton changes last ih =>
      rw [changeAll_concat, newest?_concat]
      cases last with
      | put name' value => exact ih
      | register name' command =>
          show ((name', command) :: (w.changeAll changes).hosts.entries).lookup name = _
          rw [List.lookup_cons, Change.commandOf, ih]
          by_cases same : name' = name
          · rw [if_pos same, beq_iff_eq.mpr same.symm]
            rfl
          · rw [if_neg same, beq_false_of_ne (Ne.symm same)]
            rfl

end Whereabouts

end RpcLink
