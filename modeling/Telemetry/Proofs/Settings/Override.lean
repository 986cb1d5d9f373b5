import Telemetry.Proofs.Text.Numerals
import Telemetry.Settings.Override

/-!
# What the environment makes of settings

The variables are put in one after another, each into a setting of its own, so what the environment
makes of settings can be said setting by setting: it is what the text of the variable means, or what
it was. Overriding stops at the first variable whose text means nothing, and only the variables
before it have been put in then.

* `assigned_assign` — the step: one variable changes one setting, or its text means nothing.
* `overrides_overrideBy` — the run, over any list of different variables.
* `override_layered` — when overriding succeeds, what settings it makes, where it stops and what it
  leaves then, and that doing it again changes nothing.
-/

namespace Telemetry.Settings

/-! ## Settings by variable -/

/-- What a setting holds: a text or a number. -/
inductive Content where
  | text (s : String)
  | number (n : Nat)

namespace Variable

/-- What settings hold where a variable is put in. With this the seven settings are treated alike.
-/
def content (v : Variable) (s : Settings) : Content :=
  match v with
  | type => .text s.dbType
  | host => .text s.dbHost
  | port => .number s.dbPort.toNat
  | database => .text s.dbDatabase
  | username => .text s.dbUsername
  | password => .text s.dbPassword
  | connectTimeout => .number s.dbConnectTimeout.toNat

/-- What a connection is opened with of what a variable sets; the kind of store is no part of it. -/
def connection (v : Variable) (d : DatabaseSettings) : Option Content :=
  match v with
  | type => none
  | host => some (.text d.host)
  | port => some (.number d.port.toNat)
  | database => some (.text d.databaseName)
  | username => some (.text d.username)
  | password => some (.text d.password)
  | connectTimeout => some (.number d.timeout.toNat)

/-- The largest number of a variable that is one. -/
def largest : Variable → Option Nat
  | port => some 65535
  | connectTimeout => some (2 ^ 64 - 1)
  | _ => none

/-- A text means some content to a variable: itself, or a number that is not too large. It is
defined by numerals and not by the reader of the program. -/
def Means (v : Variable) (text : String) (x : Content) : Prop :=
  match v.largest with
  | none => x = .text text
  | some largest => ∃ n ≤ largest, Text.Numeral text n ∧ x = .number n

section

variable {v : Variable} {text : String} {x y : Content}

theorem means_text (h : v.largest = none) : v.Means text x ↔ x = .text text := by
  rw [Means, h]

theorem means_number {largest : Nat} (h : v.largest = some largest) :
    v.Means text x ↔ ∃ n ≤ largest, Text.Numeral text n ∧ x = .number n := by
  rw [Means, h]

/-- A number is read as it is meant. -/
theorem means_iff_naturalBelow? {largest : Nat} (h : v.largest = some largest) :
    v.Means text x ↔ ∃ n, Text.naturalBelow? (largest + 1) text = some n ∧ x = .number n := by
  simp only [means_number h, Text.naturalBelow?_eq_some_iff, Nat.lt_succ_iff]
  constructor
  · rintro ⟨n, hle, hn, hx⟩
    exact ⟨n, ⟨hn, hle⟩, hx⟩
  · rintro ⟨n, ⟨hn, hle⟩, hx⟩
    exact ⟨n, hle, hn, hx⟩

/-- A text has at most one meaning, so what a variable sets is determined by the environment. -/
theorem Means.unique (hx : v.Means text x) (hy : v.Means text y) : x = y := by
  cases h : v.largest with
  | none => rw [(means_text h).1 hx, (means_text h).1 hy]
  | some largest =>
    obtain ⟨m, hm, rfl⟩ := (means_iff_naturalBelow? h).1 hx
    obtain ⟨n, hn, rfl⟩ := (means_iff_naturalBelow? h).1 hy
    rw [Option.some.inj (hm.symm.trans hn)]

end

/-- If a variable is set, its text means something to it. A variable that is not set always fits. -/
def Fits (env : Environment) (v : Variable) : Prop :=
  ∀ text, env v.key = some text → ∃ x, v.Means text x

/-- The variables that are looked at before a variable. -/
def before (v : Variable) : List Variable := all.takeWhile (· ≠ v)

end Variable

/-- The settings that no variable is put in, the others being blanked. -/
def unset (s : Settings) : Settings :=
  { s with
    dbType := "", dbHost := "", dbPort := 0, dbDatabase := "", dbUsername := "", dbPassword := ""
    dbConnectTimeout := 0 }

/-- Settings are what they hold for each variable, and the rest. Two records of settings are
compared variable by variable with this. -/
theorem ext_content {s s' : Settings} (h : ∀ v : Variable, v.content s = v.content s')
    (hrest : s.unset = s'.unset) : s = s' := by
  have type := Content.text.inj (h .type)
  have host := Content.text.inj (h .host)
  have port := UInt16.toNat_inj.1 (Content.number.inj (h .port))
  have database := Content.text.inj (h .database)
  have username := Content.text.inj (h .username)
  have password := Content.text.inj (h .password)
  have timeout := UInt64.toNat_inj.1 (Content.number.inj (h .connectTimeout))
  cases s
  cases s'
  simp_all [unset]

/-! ## One variable -/

/-- The settings `s'` are `s` with a text put in for one variable, and with nothing else changed. -/
structure Assigned (v : Variable) (text : String) (s s' : Settings) : Prop where
  given : v.Means text (v.content s')
  kept : ∀ u, u ≠ v → u.content s' = u.content s
  others : s'.unset = s.unset

/-- A number is put in if the text means one. -/
theorem assigned_number {v : Variable} {largest : Nat} {put : Nat → Settings} {s : Settings}
    (text : String) (h : v.largest = some largest)
    (holds : ∀ n ≤ largest, v.content (put n) = .number n)
    (kept : ∀ n u, u ≠ v → u.content (put n) = u.content s)
    (others : ∀ n, (put n).unset = s.unset) :
    (∃ s', (Text.naturalBelow? (largest + 1) text).map put = some s' ∧ Assigned v text s s') ∨
      (Text.naturalBelow? (largest + 1) text).map put = none ∧ ∀ x, ¬v.Means text x := by
  cases hn : Text.naturalBelow? (largest + 1) text with
  | none =>
    refine .inr ⟨rfl, fun x hx => ?_⟩
    obtain ⟨n, hsome, -⟩ := (Variable.means_iff_naturalBelow? h).1 hx
    rw [hn] at hsome
    cases hsome
  | some n =>
    have hle : n ≤ largest := Nat.le_of_lt_succ (Text.naturalBelow?_eq_some_iff.1 hn).2
    refine .inl ⟨put n, rfl, ?_, kept n, others n⟩
    exact (Variable.means_iff_naturalBelow? h).2 ⟨n, hn, holds n hle⟩

theorem assigned_text {v : Variable} {s s' : Settings} {text : String} (h : v.largest = none)
    (holds : v.content s' = .text text) (kept : ∀ u, u ≠ v → u.content s' = u.content s)
    (others : s'.unset = s.unset) : Assigned v text s s' :=
  ⟨(Variable.means_text h).2 holds, kept, others⟩

/-- One variable changes its own setting and no other, or its text means nothing and all stays as it
is. -/
theorem assigned_assign (v : Variable) (text : String) (s : Settings) :
    (∃ s', s.assign v text = some s' ∧ Assigned v text s s') ∨
      s.assign v text = none ∧ ∀ x, ¬v.Means text x := by
  cases v with
  | type | host | database | username | password =>
    refine .inl ⟨_, rfl, assigned_text rfl rfl (fun u hu => ?_) rfl⟩
    cases u <;> simp_all [Variable.content]
  | port =>
    refine assigned_number text rfl (fun n hle => ?_) (fun n u hu => ?_) fun _ => rfl
    · exact congrArg Content.number (UInt16.toNat_ofNat_of_lt' (Nat.lt_succ_of_le hle))
    · cases u <;> simp_all [Variable.content]
  | connectTimeout =>
    refine assigned_number text rfl (fun n hle => ?_) (fun n u hu => ?_) fun _ => rfl
    · exact congrArg Content.number (UInt64.toNat_ofNat_of_lt' (Nat.lt_succ_of_le hle))
    · cases u <;> simp_all [Variable.content]

/-! ## Variables in turn

Different variables set different settings, so the order in which they are put in matters only for
where the overriding stops. -/

/-- The settings `s'` are `s` with the texts of some variables put in, where these are set. The
order in which they have been put in cannot be seen. -/
structure Overlaid (env : Environment) (vs : List Variable) (s s' : Settings) : Prop where
  given : ∀ v ∈ vs, ∀ text, env v.key = some text → v.Means text (v.content s')
  kept : ∀ v, (v ∈ vs → env v.key = none) → v.content s' = v.content s
  others : s'.unset = s.unset

/-- What becomes of settings where variables are put in one after another: all of them, or those
before the first that does not fit. -/
inductive Overrides (env : Environment) (vs : List Variable) (s : Settings) :
    Except Invalid Unit × Settings → Prop
  | done {s' : Settings} (fits : ∀ v ∈ vs, v.Fits env) (overlaid : Overlaid env vs s s') :
      Overrides env vs s (.ok (), s')
  /-- the first variable whose text means nothing is told, and those before it are put in -/
  | stopped {v : Variable} {text : String} {s' : Settings} (mem : v ∈ vs)
      (set : env v.key = some text) (unfit : ∀ x, ¬v.Means text x)
      (fits : ∀ u ∈ vs.takeWhile (· ≠ v), u.Fits env)
      (overlaid : Overlaid env (vs.takeWhile (· ≠ v)) s s') :
      Overrides env vs s (.error ⟨v, text⟩, s')

section

variable {env : Environment} {v : Variable} {vs : List Variable} {s s₁ s₂ : Settings}
  {r r' : Except Invalid Unit × Settings}

theorem Overlaid.nil (s : Settings) : Overlaid env [] s s := ⟨nofun, fun _ _ => rfl, rfl⟩

/-- A variable that is not set leaves everything as it is, so the others may be put in without it.
-/
theorem Overlaid.cons_none (h : env v.key = none) (hrest : Overlaid env vs s s₁) :
    Overlaid env (v :: vs) s s₁ where
  given u hu text ht := by
    rcases List.mem_cons.1 hu with rfl | hu
    · rw [h] at ht
      cases ht
    · exact hrest.given u hu text ht
  kept u hu := hrest.kept u fun hmem => hu (List.mem_cons_of_mem _ hmem)
  others := hrest.others

/-- What a variable puts in is not touched by others. -/
theorem Overlaid.cons_some {text : String} (h : env v.key = some text) (hv : v ∉ vs)
    (hfirst : Assigned v text s s₁) (hrest : Overlaid env vs s₁ s₂) :
    Overlaid env (v :: vs) s s₂ where
  given u hu text' ht := by
    rcases List.mem_cons.1 hu with rfl | hu
    · obtain rfl := Option.some.inj (h.symm.trans ht)
      rw [hrest.kept u fun hmem => absurd hmem hv]
      exact hfirst.given
    · exact hrest.given u hu text' ht
  kept u hu := by
    have hne : u ≠ v := by
      rintro rfl
      have unset := hu (List.mem_cons_self ..)
      rw [h] at unset
      cases unset
    rw [hrest.kept u fun hmem => hu (List.mem_cons_of_mem _ hmem), hfirst.kept u hne]
  others := hrest.others.trans hfirst.others

/-- A variable that has been put in comes before whatever is done with the rest. The step of
`overrides_overrideBy`. -/
theorem Overrides.cons (hv : v ∉ vs) (hfits : v.Fits env)
    (overlay : ∀ us s', v ∉ us → Overlaid env us s₁ s' → Overlaid env (v :: us) s s')
    (hrest : Overrides env vs s₁ r) : Overrides env (v :: vs) s r := by
  cases hrest with
  | done fits overlaid =>
    exact .done (List.forall_mem_cons.2 ⟨hfits, fits⟩) (overlay _ _ hv overlaid)
  | @stopped w text s' mem set unfit fits overlaid =>
    have hne : v ≠ w := fun heq => hv (heq ▸ mem)
    have before : (v :: vs).takeWhile (· ≠ w) = v :: vs.takeWhile (· ≠ w) :=
      List.takeWhile_cons_of_pos (decide_eq_true hne)
    have apart : v ∉ vs.takeWhile (· ≠ w) := fun hmem =>
      hv ((List.takeWhile_prefix _).subset hmem)
    refine .stopped (List.mem_cons_of_mem _ mem) set unfit ?_ ?_
    · rw [before]
      exact List.forall_mem_cons.2 ⟨hfits, fits⟩
    · rw [before]
      exact overlay _ _ apart overlaid

/-- Different variables are put in one after another, up to the first whose text means nothing. The
induction is over the list of variables, with any settings before it. -/
theorem overrides_overrideBy (hvs : vs.Nodup) (s : Settings) :
    Overrides env vs s (overrideBy env vs s) := by
  induction vs generalizing s with
  | nil => exact .done nofun (.nil s)
  | cons v vs ih =>
    obtain ⟨hv, hvs⟩ := List.nodup_cons.1 hvs
    rw [overrideBy]
    cases h : env v.key with
    | none =>
      have fits : v.Fits env := fun text ht => by
        rw [h] at ht
        cases ht
      exact (ih hvs s).cons hv fits fun _ _ _ => .cons_none h
    | some text =>
      rcases assigned_assign v text s with ⟨s₁, hs, assigned⟩ | ⟨hs, unfit⟩
      · have fits : v.Fits env := fun text' ht => by
          obtain rfl := Option.some.inj (h.symm.trans ht)
          exact ⟨_, assigned.given⟩
        dsimp only
        rw [hs]
        exact (ih hvs s₁).cons hv fits fun _ _ hus => .cons_some h hus assigned
      · dsimp only
        rw [hs]
        -- the variable that stops it is the first, so none comes before it
        have before : (v :: vs).takeWhile (· ≠ v) = [] :=
          List.takeWhile_cons_of_neg (by simp)
        refine .stopped (List.mem_cons_self ..) h unfit ?_ ?_
        · rw [before]
          exact nofun
        · rw [before]
          exact .nil s

/-! ## Where it ends -/

/-- All variables are taken over exactly if every one of them fits, since the first that does not
ends the pass with an error. -/
theorem Overrides.ok_iff (h : Overrides env vs s r) : r.1 = .ok () ↔ ∀ v ∈ vs, v.Fits env := by
  cases h with
  | done fits => exact ⟨fun _ => fits, fun _ => rfl⟩
  | @stopped v text _ mem set unfit =>
    refine ⟨nofun, fun fits => ?_⟩
    obtain ⟨x, hx⟩ := fits v mem text set
    exact absurd hx (unfit x)

/-- A pass without an error has taken every variable over. -/
theorem Overrides.overlaid (h : Overrides env vs s r) (hok : r.1 = .ok ()) :
    Overlaid env vs s r.2 := by
  cases h with
  | done _ overlaid => exact overlaid
  | stopped => cases hok

/-- What is told where overriding stops: the first variable whose text means nothing, with its text.
Those before it have been put in, and those after it have not. -/
theorem Overrides.told (h : Overrides env vs s r) {i : Invalid} (herror : r.1 = .error i) :
    env i.which.key = some i.text ∧ (∀ x, ¬i.which.Means i.text x) ∧
      (∀ u ∈ vs.takeWhile (· ≠ i.which), u.Fits env) ∧
      Overlaid env (vs.takeWhile (· ≠ i.which)) s r.2 := by
  cases h with
  | done => cases herror
  | stopped _ set unfit fits overlaid =>
    obtain rfl := Except.error.inj herror
    exact ⟨set, unfit, fits, overlaid⟩

/-! ## Doing it again

What has been put in is put in once more, and where the overriding has stopped it stops again. -/

/-- Where overriding stops is decided by the environment alone. The settings at the start have no
part in it. -/
theorem overrideBy_fst (vs : List Variable) (s s' : Settings) :
    (overrideBy env vs s).1 = (overrideBy env vs s').1 := by
  induction vs generalizing s s' with
  | nil => rfl
  | cons v vs ih =>
    rw [overrideBy, overrideBy]
    cases env v.key with
    | none => exact ih s s'
    | some text =>
      dsimp only
      rcases assigned_assign v text s with ⟨s₁, hs, assigned⟩ | ⟨hs, unfit⟩ <;>
        rcases assigned_assign v text s' with ⟨s₁', hs', assigned'⟩ | ⟨hs', unfit'⟩ <;>
        rw [hs, hs']
      · exact ih s₁ s₁'
      · exact absurd assigned.given (unfit' _)
      · exact absurd assigned'.given (unfit _)

/-- What has been put in once is there already. -/
theorem Overlaid.again (h : Overlaid env vs s s₁) (h' : Overlaid env vs s₁ s₂) : s₂ = s₁ := by
  refine ext_content (fun v => ?_) h'.others
  by_cases hset : v ∈ vs → env v.key = none
  · exact h'.kept v hset
  · obtain ⟨hv, hne⟩ := Classical.not_imp.1 hset
    obtain ⟨text, ht⟩ := Option.ne_none_iff_exists'.1 hne
    exact (h'.given v hv text ht).unique (h.given v hv text ht)

/-- A second pass over the result of the first changes nothing, also when both end with the same
error: the variables before the failing one are set to what they are, and those after it are not
reached. -/
theorem Overrides.again (h : Overrides env vs s r) (h' : Overrides env vs r.2 r')
    (hfst : r'.1 = r.1) : r' = r := by
  cases h with
  | done _ overlaid =>
    cases h' with
    | done _ overlaid' => rw [overlaid.again overlaid']
    | stopped => cases hfst
  | stopped _ _ _ _ overlaid =>
    cases h' with
    | done => cases hfst
    | stopped _ _ _ _ overlaid' =>
      obtain ⟨rfl, rfl⟩ := Invalid.mk.inj (Except.error.inj hfst)
      rw [overlaid.again overlaid']

end

/-! ## The environment -/

variable (env : Environment) (s : Settings)

theorem overrides_override : Overrides env Variable.all s (s.override env) :=
  overrides_overrideBy (by decide) s

theorem override_ok_iff : (s.override env).1 = .ok () ↔ ∀ v : Variable, v.Fits env :=
  (overrides_override env s).ok_iff.trans ⟨fun fits v => fits v v.mem_all, fun fits v _ => fits v⟩

theorem connection_database (v : Variable) (hv : v ≠ .type) :
    v.connection s.database = some (v.content s) := by
  cases v with
  | type => exact absurd rfl hv
  | host | port | database | username | password | connectTimeout => rfl

/-- Only a variable that is a number can have a text that means nothing. Every text is the value of
a setting that is a text. -/
theorem forall_fits_iff : (∀ v : Variable, v.Fits env) ↔
    (∀ text, env "COREDATA_DB_PORT" = some text → ∃ n ≤ 65535, Text.Numeral text n) ∧
      ∀ text, env "COREDATA_DB_CONNECT_TIMEOUT" = some text →
        ∃ n ≤ 2 ^ 64 - 1, Text.Numeral text n := by
  -- both variables that are numbers are read by one reader, up to different largest values
  have number {v : Variable} {largest : Nat} (h : v.largest = some largest) :
      v.Fits env ↔ ∀ text, env v.key = some text → ∃ n ≤ largest, Text.Numeral text n := by
    refine forall_congr' fun text => imp_congr_right fun _ => ?_
    simp only [Variable.means_number h]
    constructor
    · rintro ⟨_, n, hle, hn, -⟩
      exact ⟨n, hle, hn⟩
    · rintro ⟨n, hle, hn⟩
      exact ⟨_, n, hle, hn, rfl⟩
  constructor
  · exact fun fits => ⟨(number rfl).1 (fits .port), (number rfl).1 (fits .connectTimeout)⟩
  · rintro ⟨port, timeout⟩ v
    cases v with
    | port => exact (number rfl).2 port
    | connectTimeout => exact (number rfl).2 timeout
    | type | host | database | username | password =>
      exact fun text _ => ⟨_, (Variable.means_text rfl).2 rfl⟩

/-- How settings are overridden by an environment: when it succeeds, what each setting is then, what
is told if it fails, and what a second time does. -/
structure Layered : Prop where
  ok_iff : (s.override env).1 = .ok () ↔
    (∀ text, env "COREDATA_DB_PORT" = some text → ∃ n ≤ 65535, Text.Numeral text n) ∧
      ∀ text, env "COREDATA_DB_CONNECT_TIMEOUT" = some text →
        ∃ n ≤ 2 ^ 64 - 1, Text.Numeral text n
  /-- then every variable is put in, and a connection is opened with what the settings hold -/
  done : (s.override env).1 = .ok () →
    Overlaid env Variable.all s (s.override env).2 ∧
      ∀ v : Variable, v ≠ .type →
        v.connection (s.override env).2.database = some (v.content (s.override env).2)
  /-- otherwise the first variable whose text means nothing is told, and those before it are put
  in -/
  stopped : ∀ i, (s.override env).1 = .error i →
    env i.which.key = some i.text ∧ (∀ x, ¬i.which.Means i.text x) ∧
      (∀ v ∈ i.which.before, v.Fits env) ∧ Overlaid env i.which.before s (s.override env).2
  again : (s.override env).2.override env = s.override env

/-- Overriding succeeds exactly if the two numbers among the variables are numerals in range, where
they are set. Then each variable that is set is in its setting and in nothing else. Otherwise it
stops at the first variable in order whose text means nothing, and exactly the variables before that
one have been put in. In either case doing it again changes nothing. -/
theorem override_layered : Layered env s where
  ok_iff := (override_ok_iff env s).trans (forall_fits_iff env)
  done hok := ⟨(overrides_override env s).overlaid hok, fun v hv => connection_database _ v hv⟩
  stopped _ herror := (overrides_override env s).told herror
  again := (overrides_override env s).again (overrides_override env _) (overrideBy_fst _ _ _)

/-- An environment with a port that is one too large. -/
def portTooLarge : Environment := fun key =>
  if key = "COREDATA_DB_HOST" then some "mysql" else
  if key = "COREDATA_DB_PORT" then some "65536" else
  if key = "COREDATA_DB_DATABASE" then some "other" else none

/-- A bad port leaves the host that is looked at before it, and not the database after it. -/
theorem override_layered_of_portTooLarge :
    override portTooLarge {} = (.error ⟨.port, "65536"⟩, { dbHost := "mysql" }) ∧
      override portTooLarge { dbHost := "mysql" } = override portTooLarge {} := by
  have once : override portTooLarge {} = (.error ⟨.port, "65536"⟩, { dbHost := "mysql" }) := by
    decide +kernel
  have again := (override_layered portTooLarge {}).again
  rw [once] at again
  exact ⟨once, again.trans once.symm⟩

end Telemetry.Settings
