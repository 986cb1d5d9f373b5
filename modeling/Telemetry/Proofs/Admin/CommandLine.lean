import Telemetry.Admin.CommandLine
import Telemetry.Proofs.Json.Decoder

/-!
# What an accepted command line says

An accepted command line is the name of its command between options, and every option is one of its
level, written in full. So the command line says what its command is: nothing is confirmed that is
not written down, and what is written down is not overlooked.

* `Argument.Writes` — an argument is an option: its full name or its letter.
* `takeUpName_ok`, `takeUpLetter_ok` — the step: an argument that is taken up writes an option of
  the level, and that is all it adds to what has been given.
* `readLevel_ok` — the run over the arguments of a level.
* `Invocation.parse_ok` — what an accepted command line consists of.
* `Invocation.parse_arguments` — every invocation can be written, and is read back.
-/

namespace Telemetry.Admin

/-! ## Arguments -/

namespace Switch

theorem name_inj {s t : Switch} (h : s.name = t.name) : s = t := by
  revert h
  cases s <;> cases t <;> decide

theorem letter_inj {s t : Switch} {c : Char} (hs : s.letter? = some c) (ht : t.letter? = some c) :
    s = t := by
  cases s <;> cases hs <;> cases t <;> cases ht
  all_goals rfl

end Switch

namespace Argument

variable {a : Argument} {s t : Switch}

/-- Whether an argument has the form of an option. A level ends at the first argument that has not,
unless that is the value of the option before it. -/
def isOption : Argument → Bool
  | long .. | short .. => true
  | escape | word _ => false

/-- An argument is an option: its full name, with a value attached only if it takes one, or its
letter. -/
def Writes : Argument → Switch → Prop
  | long name value, s => s.name = name ∧ (value.isSome → s.takesValue = true)
  | short c _, s => s.letter? = some c
  | _, _ => False

/-- An argument writes at most one switch: a name and a letter belong to one switch each. -/
theorem Writes.unique (hs : a.Writes s) (ht : a.Writes t) : s = t := by
  cases a with
  | long name value => exact Switch.name_inj (hs.1.trans ht.1.symm)
  | short c rest => exact Switch.letter_inj hs ht
  | escape => exact hs.elim
  | word text => exact hs.elim

/-- An option without a value attached is two dashes and its name. -/
theorem eq_of_ofString_long {arg name : String} (h : ofString arg = .long name none) :
    arg = "--" ++ name := by
  unfold ofString at h
  split at h
  · cases h
  · next cs _ hcs =>
    dsimp only at h
    split at h
    · next hdrop =>
      obtain ⟨hname, -⟩ := Argument.long.inj h
      -- nothing is left behind the name, so the name is all that follows the dashes
      have whole := List.prefix_iff_eq_append.1 (List.takeWhile_prefix (l := cs) (· != '='))
      rw [hdrop, List.append_nil] at whole
      rw [whole] at hname
      rw [← String.toList_inj, hcs, ← hname]
      simp
    · cases h
  · cases h
  · cases h

theorem eq_of_ofString_word {arg text : String} (h : ofString arg = .word text) : text = arg := by
  unfold ofString at h
  split at h
  · cases h
  · dsimp only at h
    split at h <;> cases h
  · cases h
  · exact (Argument.word.inj h).symm

/-- There is one way to write a confirmation. The option has no letter and takes no value, so no
other argument can stand for it. -/
theorem writes_yes {arg : String} : (ofString arg).Writes .yes ↔ arg = "--yes" := by
  constructor
  · intro h
    cases harg : ofString arg with
    | long name value =>
      rw [harg] at h
      obtain ⟨rfl, takes⟩ := h
      cases value with
      | none => exact eq_of_ofString_long harg
      | some value => exact absurd (takes rfl) Bool.false_ne_true
    | short c rest =>
      rw [harg] at h
      cases h
    | escape => exact (harg ▸ h).elim
    | word text => exact (harg ▸ h).elim
  · rintro rfl
    have long : ofString "--yes" = .long "yes" none := by cbv
    rw [long]
    exact ⟨rfl, nofun⟩

end Argument

/-! ## Options that are given

While a level is read an option may wait for its value. Whether it has been given does not depend on
that, so what is said of a level is said in terms of `Mentions`. -/

namespace Given

variable {g g' : Given} {s : Switch} {switches : List Switch}

/-- Whether an option has been given, be it settled or waiting for its value. Only the settled ones
count in the end, but while a level is read the two are not told apart. -/
def Mentions (g : Given) (s : Switch) : Prop :=
  g.has s = true ∨ ∃ value, g.waiting = some (s, value)

theorem mentions_none (s : Switch) : ¬none.Mentions s := by
  rintro (h | ⟨_, h⟩)
  · cases h
  · cases h

theorem mentions_of_settled (h : g.waiting = .none) (t : Switch) :
    g.Mentions t ↔ g.has t = true := by
  simp [Mentions, h]

/-- An option that is added is given from then on, and nothing else changes. -/
theorem add_ok {value : String} (h : g.add s value = .ok g') :
    g'.waiting = g.waiting ∧ ∀ t, g'.has t = true ↔ g.has t = true ∨ t = s := by
  unfold add at h
  split at h
  · cases h
  · obtain rfl := Except.ok.inj h
    refine ⟨rfl, fun t => ?_⟩
    rw [has, List.any_append, Bool.or_eq_true, ← has, List.any_cons, List.any_nil, Bool.or_false,
      decide_eq_true_iff, eq_comm (a := s)]

/-- Settling forgets no option: the one that was waiting is given afterwards, and the others still
are. -/
theorem settle_ok (h : g.settle = .ok g') :
    g'.waiting = .none ∧ ∀ t, g'.has t = true ↔ g.Mentions t := by
  unfold settle at h
  split at h
  · next hnone =>
    obtain rfl := Except.ok.inj h
    exact ⟨hnone, fun t => (mentions_of_settled hnone t).symm⟩
  · cases h
  · next s value hsome =>
    obtain ⟨hwaiting, hhas⟩ := add_ok h
    refine ⟨hwaiting, fun t => (hhas t).trans (or_congr Iff.rfl ?_)⟩
    simp [hsome, eq_comm]

section

variable {g₁ : Given} (hsettle : g.settle = .ok g₁)

include hsettle

theorem mentions_settled {value : String} (h : g₁.add s value = .ok g') (t : Switch) :
    g'.Mentions t ↔ g.Mentions t ∨ t = s := by
  obtain ⟨hwaiting, hhas⟩ := settle_ok hsettle
  obtain ⟨hwaiting', hhas'⟩ := add_ok h
  rw [mentions_of_settled (hwaiting'.trans hwaiting), hhas', hhas]

theorem mentions_waiting (t : Switch) :
    Mentions { g₁ with waiting := some (s, .none) } t ↔ g.Mentions t ∨ t = s := by
  obtain ⟨-, hhas⟩ := settle_ok hsettle
  refine or_congr (hhas t) ?_
  simp [eq_comm]

end

/-- What has been taken up is given from now on, besides what has been given before. Whether its
value is still to come makes no difference to this. -/
theorem takeUp_ok {attached : Option String} (h : g.takeUp s attached = .ok g') :
    (attached.isSome → s.takesValue = true) ∧ ∀ t, g'.Mentions t ↔ g.Mentions t ∨ t = s := by
  unfold takeUp at h
  split at h
  · next value =>
    cases takes : s.takesValue with
    | false =>
      rw [takes] at h
      cases h
    | true =>
      rw [takes] at h
      obtain ⟨g₁, hsettle, hadd⟩ := ok_of_bind h
      exact ⟨fun _ => rfl, mentions_settled hsettle hadd⟩
  · -- nothing is attached, so the value is the next argument or there is none
    refine ⟨nofun, ?_⟩
    obtain ⟨g₁, hsettle, h⟩ := ok_of_bind h
    dsimp only at h
    split at h
    · cases h
    · split at h
      · obtain rfl := Except.ok.inj h
        exact mentions_waiting hsettle
      · exact mentions_settled hsettle h

end Given

/-! ## A level -/

/-- An argument has been taken up as an option of a level: the level has the option, and it is now
given. -/
structure TakenUp (switches : List Switch) (a : Argument) (g g' : Given) : Prop where
  declared : ∃ s ∈ switches, a.Writes s
  mentions : ∀ t, g'.Mentions t ↔ g.Mentions t ∨ a.Writes t

section

variable {switches : List Switch} {g g' : Given}

/-- An argument that writes a declared switch is taken up as that switch. -/
theorem takenUp_of_writes {a : Argument} {s : Switch} (hs : s ∈ switches) (hw : a.Writes s)
    (h : ∀ t, g'.Mentions t ↔ g.Mentions t ∨ t = s) : TakenUp switches a g g' where
  declared := ⟨s, hs, hw⟩
  mentions t := by
    rw [h]
    refine or_congr Iff.rfl ⟨?_, fun ht => ht.unique hw⟩
    rintro rfl
    exact hw

/-- An argument with a long name is taken up only if the level declares the name. -/
theorem takeUpName_ok {name : String} {value : Option String}
    (h : g.takeUpName switches name value = .ok g') :
    TakenUp switches (.long name value) g g' := by
  unfold Given.takeUpName at h
  split at h
  · cases h
  · next s hfind =>
    obtain ⟨takes, hmentions⟩ := Given.takeUp_ok h
    have named : s.name = name := by simpa using List.find?_some hfind
    exact takenUp_of_writes (List.mem_of_find?_eq_some hfind) ⟨named, takes⟩ hmentions

/-- An argument with a letter is taken up only if the level declares the letter. What stands after
the letter in the same argument is its value. -/
theorem takeUpLetter_ok {c : Char} {rest : List Char}
    (h : g.takeUpLetter switches c rest = .ok g') : TakenUp switches (.short c rest) g g' := by
  unfold Given.takeUpLetter at h
  split at h
  · cases h
  · next s hfind =>
    obtain ⟨-, hmentions⟩ := Given.takeUp_ok h
    have lettered : s.letter? = some c := by simpa using List.find?_some hfind
    exact takenUp_of_writes (List.mem_of_find?_eq_some hfind) lettered hmentions

/-- Every option among some arguments is one of the level, written in full. An argument of this form
is never the value of another one, since a level takes only words for values. -/
def Declared (switches : List Switch) (args : List String) : Prop :=
  ∀ arg ∈ args, (Argument.ofString arg).isOption = true →
    ∃ s ∈ switches, (Argument.ofString arg).Writes s

/-- A level that does not declare the confirmation refuses the argument for it, so an accepted line
has no such argument there. -/
theorem Declared.not_confirming {args : List String} (h : Declared switches args)
    (hyes : .yes ∉ switches) : "--yes" ∉ args := by
  intro hmem
  have writes : (Argument.ofString "--yes").Writes .yes := Argument.writes_yes.2 rfl
  obtain ⟨s, hs, hw⟩ := h _ hmem (by cbv)
  exact hyes (hw.unique writes ▸ hs)

/-- Arguments that a level has read, and what has been given then: what they write, and what had
been given before them. -/
structure HasRead (switches : List Switch) (args : List String) (g g' : Given) : Prop where
  declared : Declared switches args
  mentions : ∀ t, g'.Mentions t ↔ g.Mentions t ∨ ∃ arg ∈ args, (Argument.ofString arg).Writes t

namespace HasRead

variable {arg : String} {args : List String} {g₁ : Given}

theorem nil : HasRead switches [] g g where
  declared _ h := by cases h
  mentions t := by simp

theorem option (h : TakenUp switches (.ofString arg) g g₁)
    (rest : HasRead switches args g₁ g') : HasRead switches (arg :: args) g g' where
  declared := List.forall_mem_cons.2 ⟨fun _ => h.declared, rest.declared⟩
  mentions t := by
    simp only [rest.mentions, h.mentions, List.mem_cons, exists_eq_or_imp, or_assoc]

/-- The next argument is no option, and what has been given is the same but for its values. -/
theorem noOption (form : (Argument.ofString arg).isOption = false)
    (h : ∀ t, g₁.Mentions t ↔ g.Mentions t)
    (rest : HasRead switches args g₁ g') : HasRead switches (arg :: args) g g' where
  declared := by
    refine List.forall_mem_cons.2 ⟨fun option => ?_, rest.declared⟩
    rw [form] at option
    cases option
  mentions t := by
    have writesNone : ¬(Argument.ofString arg).Writes t := by
      cases ha : Argument.ofString arg with
      | long | short =>
        rw [ha] at form
        cases form
      | escape | word => exact id
    simp only [rest.mentions, h, List.mem_cons, exists_eq_or_imp, writesNone, false_or]

end HasRead

/-- The arguments that a level leaves. -/
def remaining : Option (String × List String) → List String
  | none => []
  | some (text, args) => text :: args

/-- A level is read up to a text that is neither an option nor the value of one. The induction
follows the arguments, with what has been given so far. -/
theorem readLevel_ok {rest : Option (String × List String)} {args : List String} {g : Given}
    (h : readLevel switches g args = .ok (g', rest)) :
    ∃ read, args = read ++ remaining rest ∧ HasRead switches read g g' := by
  induction args generalizing g with
  | nil =>
    cases h
    exact ⟨[], rfl, .nil⟩
  | cons arg args ih =>
    rw [readLevel] at h
    split at h
    · next harg =>
      -- nothing follows the two dashes
      split at h
      · next hargs =>
        cases h
        rw [List.isEmpty_iff.1 hargs]
        exact ⟨[arg], rfl, .noOption (by rw [harg]; rfl) (fun _ => Iff.rfl) .nil⟩
      · cases h
    · next name value harg =>
      obtain ⟨g₁, htake, h⟩ := ok_of_bind h
      obtain ⟨read, rfl, hread⟩ := ih h
      exact ⟨arg :: read, rfl, .option (harg ▸ takeUpName_ok htake) hread⟩
    · next c letters harg =>
      obtain ⟨g₁, htake, h⟩ := ok_of_bind h
      obtain ⟨read, rfl, hread⟩ := ih h
      exact ⟨arg :: read, rfl, .option (harg ▸ takeUpLetter_ok htake) hread⟩
    · next text harg =>
      split at h
      · next s hwaiting =>
        -- the text is the value that an option has been waiting for
        obtain ⟨read, rfl, hread⟩ := ih h
        refine ⟨arg :: read, rfl, .noOption (by rw [harg]; rfl) (fun t => ?_) hread⟩
        simp [Given.Mentions, Given.has, hwaiting]
      · cases h
        rw [Argument.eq_of_ofString_word harg]
        exact ⟨[], rfl, .nil⟩

/-- The options of a command are all that its arguments give, as no argument of a command may be a
word. -/
theorem readOptions_ok {args : List String} (h : readOptions switches args = .ok g) :
    Declared switches args ∧
      ∀ t, g.has t = true ↔ ∃ arg ∈ args, (Argument.ofString arg).Writes t := by
  unfold readOptions at h
  obtain ⟨⟨g₀, rest⟩, hlevel, hrest⟩ := ok_of_bind h
  obtain ⟨read, rfl, hread⟩ := readLevel_ok hlevel
  cases rest with
  | some _ => cases hrest
  | none =>
    rw [remaining, List.append_nil]
    obtain ⟨-, hhas⟩ := Given.settle_ok hrest
    refine ⟨hread.declared, fun t => ?_⟩
    rw [hhas, hread.mentions, or_iff_right (Given.mentions_none t)]

end

/-! ## Commands -/

namespace Command

/-- The name under which a command is written on the command line. -/
def name : Command → String
  | ping => "ping"
  | count _ => "count"
  | scrubEvents _ => "scrub-events"
  | scrubValueDescriptors _ => "scrub-value-descriptors"

/-- The options of a command. -/
def switches : Command → List Switch
  | ping => [.help]
  | count _ => [.device, .help]
  | scrubEvents _ | scrubValueDescriptors _ => [.yes, .help]

/-- Whether a command deletes data and has been confirmed. -/
def isConfirmed : Command → Bool
  | scrubEvents confirmed | scrubValueDescriptors confirmed => confirmed
  | _ => false

end Command

/-- The arguments after the name of a command give its options, and confirm it if they say so. This
is what can be told of a command line from the command that is read from it. -/
structure Command.Written (c : Command) (args : List String) : Prop where
  declared : Declared c.switches args
  confirmed : c.isConfirmed = true ↔ "--yes" ∈ args

/-- A command whose options have been read is written as its arguments say. -/
theorem written_of_options {c : Command} {args : List String} {g : Given}
    (h : readOptions c.switches args = .ok g) (hc : c.isConfirmed = g.has .yes) :
    c.Written args := by
  obtain ⟨declared, given⟩ := readOptions_ok h
  refine ⟨declared, ?_⟩
  rw [hc, given]
  simp [Argument.writes_yes]

/-- A command without data to delete has no option to confirm it. -/
theorem written_of_query {c : Command} {args : List String} {g : Given}
    (h : readOptions c.switches args = .ok g) (hc : c.isConfirmed = false)
    (hyes : .yes ∉ c.switches) : c.Written args := by
  obtain ⟨declared, -⟩ := readOptions_ok h
  refine ⟨declared, ?_⟩
  rw [hc]
  exact iff_of_false Bool.false_ne_true (declared.not_confirming hyes)

/-- A command that is read has the name it is read under, and is confirmed exactly if its arguments
say so. -/
theorem readCommand_ok {name : String} {args : List String} {c : Command}
    (h : readCommand name args = .ok c) : c.name = name ∧ c.Written args := by
  unfold readCommand at h
  split at h
  · obtain ⟨g, hg, rfl⟩ := ok_of_map h
    exact ⟨rfl, written_of_query hg rfl (by simp [Command.switches])⟩
  · obtain ⟨g, hg, rfl⟩ := ok_of_map h
    exact ⟨rfl, written_of_query hg rfl (by simp [Command.switches])⟩
  · obtain ⟨g, hg, rfl⟩ := ok_of_map h
    exact ⟨rfl, written_of_options hg rfl⟩
  · obtain ⟨g, hg, rfl⟩ := ok_of_map h
    exact ⟨rfl, written_of_options hg rfl⟩
  · split at h <;> cases h
  · cases h

namespace Invocation

variable {args : List String} {i : Invocation}

/-- An accepted command line is the name of its command between the options of the tool and those of
the command. -/
theorem parse_ok (h : parse args = .ok i) :
    ∃ before after, args = before ++ i.command.name :: after ∧
      Declared [.config, .help] before ∧ i.command.Written after := by
  unfold parse at h
  obtain ⟨⟨g, rest⟩, hlevel, hrest⟩ := ok_of_bind h
  obtain ⟨before, rfl, hread⟩ := readLevel_ok hlevel
  cases rest with
  | none => cases hrest
  | some rest =>
    obtain ⟨name, after⟩ := rest
    obtain ⟨command, hcommand, hsettle⟩ := ok_of_bind hrest
    obtain ⟨g', -, hresult⟩ := ok_of_bind hsettle
    obtain rfl := Except.ok.inj hresult
    obtain ⟨rfl, written⟩ := readCommand_ok hcommand
    exact ⟨before, after, rfl, hread.declared, written⟩

/-- An accepted command line confirms its command exactly if it has the option for that. -/
theorem isConfirmed_iff (h : parse args = .ok i) :
    i.command.isConfirmed = true ↔ "--yes" ∈ args := by
  obtain ⟨before, after, rfl, declared, written⟩ := parse_ok h
  have notBefore := declared.not_confirming (by decide)
  have notName : "--yes" ≠ i.command.name := by
    cases i.command <;> simp [Command.name]
  rw [written.confirmed, List.mem_append, List.mem_cons, or_iff_right notBefore,
    or_iff_right notName]

end Invocation

/-! ## Writing a command line -/

/-- An option with its value in one argument. -/
def Switch.withValue (s : Switch) (value : String) : String := "--" ++ s.name ++ "=" ++ value

theorem Argument.ofString_withValue (s : Switch) (value : String) :
    ofString (s.withValue value) = .long s.name (some value) := by
  have chars : (s.withValue value).toList
      = '-' :: '-' :: (s.name.toList ++ '=' :: value.toList) := by
    simp [Switch.withValue]
  rw [ofString, chars]
  cases s <;> simp [Switch.name]

/-- The arguments that write the options of a command. -/
def Command.options : Command → List String
  | count (some device) => [Switch.device.withValue device]
  | scrubEvents true | scrubValueDescriptors true => ["--yes"]
  | _ => []

/-- The arguments that write an invocation. There are others with the same meaning; these give every
value together with its option. -/
def Invocation.arguments (i : Invocation) : List String :=
  i.config.toList.map Switch.config.withValue ++ i.command.name :: i.command.options

theorem readLevel_withValue {switches : List Switch} {g : Given} (s : Switch) (value : String)
    (args : List String) :
    readLevel switches g (s.withValue value :: args) = (do
      let g ← g.takeUpName switches s.name (some value)
      readLevel switches g args) := by
  rw [readLevel, Argument.ofString_withValue]

/-- The options that a command writes for itself are read back as the command. -/
theorem readCommand_options (c : Command) : readCommand c.name c.options = .ok c := by
  cases c with
  | ping => rfl
  | count device =>
    cases device with
    | none => rfl
    | some device =>
      have read : readOptions [.device, .help] [Switch.device.withValue device]
          = .ok ⟨[(.device, device)], .none⟩ := by
        rw [readOptions, readLevel_withValue]
        rfl
      change (readOptions _ [Switch.device.withValue device]).map _ = _
      rw [read]
      rfl
  | scrubEvents confirmed => cases confirmed <;> rfl
  | scrubValueDescriptors confirmed => cases confirmed <;> rfl

theorem readLevel_name {switches : List Switch} {g : Given} (h : g.waiting = none) (c : Command)
    (args : List String) :
    readLevel switches g (c.name :: args) = .ok (g, some (c.name, args)) := by
  have word : Argument.ofString c.name = .word c.name := by
    cases c <;> dsimp only [Command.name] <;> rfl
  rw [readLevel, word]
  dsimp only
  rw [h]

/-- Every invocation can be written, if the file it names has a name, and is read back. So a
statement about all command lines is also one about all commands. -/
theorem Invocation.parse_arguments {i : Invocation} (h : i.config ≠ some "") :
    parse i.arguments = .ok i := by
  obtain ⟨config, command⟩ := i
  cases config with
  | none =>
    change parse (command.name :: command.options) = _
    rw [parse, readLevel_name rfl]
    change (readCommand command.name command.options >>= _) = _
    rw [readCommand_options]
    rfl
  | some path =>
    have hpath : path.isEmpty = false := by
      rw [Bool.eq_false_iff, ne_eq, String.isEmpty_iff]
      exact fun hempty => h (congrArg some hempty)
    have taken : Given.none.takeUpName [.config, .help] "config" (some path)
        = .ok ⟨[(.config, path)], none⟩ := by
      change Given.none.add .config path = _
      rw [Given.add, Switch.accepts, hpath]
      rfl
    change parse (Switch.config.withValue path :: command.name :: command.options) = _
    rw [parse, readLevel_withValue, Switch.name, taken]
    change (readLevel _ _ (command.name :: command.options) >>= _) = _
    rw [readLevel_name rfl]
    change (readCommand command.name command.options >>= _) = _
    rw [readCommand_options]
    rfl

example :
    Invocation.parse ["-c", "admin.toml", "scrub-events", "--yes"]
      = .ok ⟨some "admin.toml", .scrubEvents true⟩ := by
  rfl

end Telemetry.Admin
