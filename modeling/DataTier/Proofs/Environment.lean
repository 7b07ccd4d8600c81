/-
**Which settings an environment asks for.**

Every setting has a variable of its own, and what the setting becomes is said by that variable
alone.  A number is taken when the variable is a text that spells it and the number fits the
setting; a text is taken as it stands when it is not blank; in all other cases, the variable unset
or no text among them, the setting keeps its default.  So a configuration that has been written to
variables, in whatever style, is read back.

Main definitions:

* `DataTier.NumberSetting`, `DataTier.TextSetting` — the settings and their variables;
* `DataTier.NumberSetting.Asked`, `DataTier.TextSetting.Held` — what a variable asks for;
* `DataTier.Config.Fits`, `DataTier.Config.Legible` — what a configuration has to be like to be
  written;
* `DataTier.Config.rendered` — the environment that a configuration is written to.

Main results:

* `DataTier.NumberSetting.of_ofEnvironment`, `DataTier.TextSetting.of_ofEnvironment` — each setting
  by its variable;
* `DataTier.Config.ofEnvironment_rendered` — **what has been written is read back**;
* `DataTier.Config.settings_as_asked` — **all of it, for every environment**.
-/

import DataTier.Proofs.Config
import DataTier.Proofs.Text.Utf8

set_option relaxedAutoImplicit false
set_option autoImplicit false

namespace DataTier

/-! ### Variables -/

/-- A variable has a text exactly when its bytes are the spelling of that text. -/
theorem Config.Environment.texts_eq_some_iff {env : Config.Environment} {name text : String} :
    env.texts name = some text ↔ env name = some (Utf8.ofString text) := by
  rw [texts, Option.bind_eq_some_iff]
  simp only [Utf8.text?_eq_some_iff, exists_eq_right]

/-! ### Numbers -/

/-- The settings that are numbers. -/
inductive NumberSetting where
  /-- How many resources the pool holds. -/
  | poolSize
  /-- The bounded wait for a resource. -/
  | acquireTimeoutMs
  /-- How often the creation of a resource is attempted. -/
  | createRetries
  /-- How long a cached result lives. -/
  | cacheDefaultTtl
  /-- How long one cache operation may take. -/
  | cacheOpTimeoutMs
  deriving DecidableEq

namespace NumberSetting

/-- The variable of a setting. -/
def name : NumberSetting → String
  | poolSize => "POOL_SIZE"
  | acquireTimeoutMs => "POOL_ACQUIRE_TIMEOUT_MS"
  | createRetries => "POOL_CREATE_RETRIES"
  | cacheDefaultTtl => "CACHE_DEFAULT_TTL"
  | cacheOpTimeoutMs => "CACHE_OP_TIMEOUT_MS"

/-- The first number that is too large for a setting. -/
def bound : NumberSetting → Nat
  | createRetries => Word.size32
  | _ => Word.size

/-- The number that a configuration has for a setting. -/
def of (c : Config) : NumberSetting → Nat
  | poolSize => c.poolSize
  | acquireTimeoutMs => c.acquireTimeoutMs
  | createRetries => c.createRetries
  | cacheDefaultTtl => c.cacheDefaultTtl
  | cacheOpTimeoutMs => c.cacheOpTimeoutMs

/-- Whether an environment asks for a number: the variable is a text that spells it, and it is not
too large. -/
def Asked (s : NumberSetting) (env : Config.Environment) (n : Nat) : Prop :=
  ∃ text : String, env s.name = some (Utf8.ofString text) ∧ Digits.Spells text.toList n ∧
    n < s.bound

theorem of_ofVariables (s : NumberSetting) (vars : Config.Variables) :
    s.of (Config.ofVariables vars) = (Config.number? vars s.name s.bound).getD (s.of {}) := by
  cases s <;> rfl

theorem number?_texts_eq_some_iff {s : NumberSetting} {env : Config.Environment} {n : Nat} :
    Config.number? env.texts s.name s.bound = some n ↔ s.Asked env n := by
  rw [Config.number?_eq_some_iff, Asked]
  simp only [Config.Environment.texts_eq_some_iff, and_comm (a := n < s.bound)]

/-- **A number is what its variable asks for**, and the default if that asks for nothing. -/
theorem of_ofEnvironment (s : NumberSetting) (env : Config.Environment) (n : Nat) :
    s.of (Config.ofEnvironment env) = n ↔
      s.Asked env n ∨ (∀ m, ¬ s.Asked env m) ∧ s.of {} = n := by
  rw [Config.ofEnvironment, of_ofVariables, Option.getD_eq_iff, Option.eq_none_iff_forall_ne_some]
  simp only [ne_eq, number?_texts_eq_some_iff]

end NumberSetting

/-! ### Texts -/

/-- The settings that are texts. -/
inductive TextSetting where
  /-- Where the embedded database lives. -/
  | duckdbDatabase
  /-- Where the Postgres server is. -/
  | postgresUrl
  /-- Where the cache is. -/
  | cacheUrl
  deriving DecidableEq

namespace TextSetting

/-- The variable of a setting. -/
def name : TextSetting → String
  | duckdbDatabase => "DUCKDB_DATABASE"
  | postgresUrl => "POSTGRES_URL"
  | cacheUrl => "VALKEY_URL"

/-- The text that a configuration has for a setting, if any. -/
def of (c : Config) : TextSetting → Option String
  | duckdbDatabase => some c.duckdbDatabase
  | postgresUrl => c.postgresUrl
  | cacheUrl => c.cacheUrl

/-- Whether an environment holds a text for a setting: the variable is that text, and it is not
blank. -/
def Held (s : TextSetting) (env : Config.Environment) (text : String) : Prop :=
  env s.name = some (Utf8.ofString text) ∧ ∃ c ∈ text.toList, Blank.isBlank c = false

theorem of_ofVariables (s : TextSetting) (vars : Config.Variables) :
    s.of (Config.ofVariables vars) = (Config.text? vars s.name).or (s.of {}) := by
  cases s with
  | duckdbDatabase =>
      rw [of, Config.ofVariables, name]
      cases Config.text? vars "DUCKDB_DATABASE" <;> rfl
  | postgresUrl => exact (Option.or_none).symm
  | cacheUrl => exact (Option.or_none).symm

theorem text?_texts_eq_some_iff {s : TextSetting} {env : Config.Environment} {text : String} :
    Config.text? env.texts s.name = some text ↔ s.Held env text := by
  rw [Config.text?, Option.filter_eq_some_iff, Config.Environment.texts_eq_some_iff, Held]
  simp

/-- **A text is what its variable holds**, as it stands, and the default if that is blank or holds
none. -/
theorem of_ofEnvironment (s : TextSetting) (env : Config.Environment) (value : Option String) :
    s.of (Config.ofEnvironment env) = value ↔
      (∃ text, s.Held env text ∧ some text = value) ∨
        (∀ text, ¬ s.Held env text) ∧ s.of {} = value := by
  rw [Config.ofEnvironment, of_ofVariables]
  simp only [← text?_texts_eq_some_iff]
  cases Config.text? env.texts s.name with
  | none => simp
  | some text => simp

/-- Only a setting that is no text by default can be none. -/
theorem of_default_of_none {s : TextSetting} {c : Config} (h : s.of c = none) :
    s.of {} = none := by
  cases s with
  | duckdbDatabase => cases h
  | postgresUrl => rfl
  | cacheUrl => rfl

end TextSetting

/-! ### Writing a configuration -/

namespace Config

/-- Configurations with the same settings are the same. -/
theorem eq_of_settings {c c' : Config} (hnumbers : ∀ s : NumberSetting, s.of c = s.of c')
    (htexts : ∀ s : TextSetting, s.of c = s.of c') : c = c' := by
  obtain ⟨⟩ := c
  obtain ⟨⟩ := c'
  have hpool := hnumbers .poolSize
  have hwait := hnumbers .acquireTimeoutMs
  have hretries := hnumbers .createRetries
  have hlife := hnumbers .cacheDefaultTtl
  have hoperation := hnumbers .cacheOpTimeoutMs
  have hdatabase := htexts .duckdbDatabase
  have hpostgres := htexts .postgresUrl
  have hcache := htexts .cacheUrl
  simp only [NumberSetting.of, TextSetting.of, Option.some.injEq] at *
  simp only [*]

/-- Every number of a configuration fits its setting. -/
def Fits (c : Config) : Prop := ∀ s : NumberSetting, s.of c < s.bound

/-- No text of a configuration is blank. -/
def Legible (c : Config) : Prop :=
  ∀ (s : TextSetting) (text : String), s.of c = some text →
    ∃ ch ∈ text.toList, Blank.isBlank ch = false

/-- The environment that a configuration is written to: its numbers in decimal, each in a style of
its own, its texts as they are, and a variable unset where there is no text.  Other variables are as
they were. -/
def rendered (c : Config) (style : NumberSetting → Digits.Style) (others : Environment) :
    Environment := fun name =>
  let number (s : NumberSetting) : Option Bytes :=
    some (Utf8.encode ((style s).written (s.of c)))
  let text (s : TextSetting) : Option Bytes := (s.of c).map Utf8.ofString
  match name with
  | "POOL_SIZE" => number .poolSize
  | "POOL_ACQUIRE_TIMEOUT_MS" => number .acquireTimeoutMs
  | "POOL_CREATE_RETRIES" => number .createRetries
  | "CACHE_DEFAULT_TTL" => number .cacheDefaultTtl
  | "CACHE_OP_TIMEOUT_MS" => number .cacheOpTimeoutMs
  | "DUCKDB_DATABASE" => text .duckdbDatabase
  | "POSTGRES_URL" => text .postgresUrl
  | "VALKEY_URL" => text .cacheUrl
  | other => others other

variable {c : Config} {style : NumberSetting → Digits.Style} {others : Environment}

theorem rendered_number (s : NumberSetting) :
    c.rendered style others s.name = some (Utf8.encode ((style s).written (s.of c))) := by
  cases s <;> rfl

theorem rendered_text (s : TextSetting) :
    c.rendered style others s.name = (s.of c).map Utf8.ofString := by
  cases s <;> rfl

theorem asked_rendered (hc : c.Fits) (s : NumberSetting) :
    s.Asked (c.rendered style others) (s.of c) := by
  refine ⟨String.ofList ((style s).written (s.of c)), ?_, ?_, hc s⟩
  · rw [rendered_number, Utf8.ofString, String.toList_ofList]
  · rw [String.toList_ofList]
    exact (style s).spells_written (s.of c)

theorem held_rendered_iff (hc : c.Legible) (s : TextSetting) (text : String) :
    s.Held (c.rendered style others) text ↔ s.of c = some text := by
  rw [TextSetting.Held, rendered_text, Option.map_eq_some_iff]
  simp only [Utf8.ofString_inj, exists_eq_right]
  exact ⟨And.left, fun h => ⟨h, hc s text h⟩⟩

/-- **What has been written is read back**, in whatever style. -/
theorem ofEnvironment_rendered (hfits : c.Fits) (hlegible : c.Legible) :
    ofEnvironment (c.rendered style others) = c := by
  refine eq_of_settings (fun s => ?_) fun s => ?_
  · exact (s.of_ofEnvironment _ _).2 (.inl (asked_rendered hfits s))
  · refine (s.of_ofEnvironment _ _).2 ?_
    simp only [held_rendered_iff hlegible]
    cases htext : s.of c with
    | none => exact .inr ⟨nofun, TextSetting.of_default_of_none htext⟩
    | some text => exact .inl ⟨text, rfl, rfl⟩

/-- **The settings are what the environment asks for.**  Of every environment: each number is the
one that its variable spells, blanks around it apart, if it fits the setting, and otherwise the
default; each text is what its variable holds, untrimmed, unless that is blank, and otherwise the
default; and two environments that agree on the variable of a setting agree on the setting.  So
every configuration whose numbers fit and whose texts are not blank is read back from the variables
it is written to, whatever blanks, plus signs and zeros its numbers are written with. -/
theorem settings_as_asked (env : Environment) :
    (∀ (s : NumberSetting) (n : Nat), s.of (ofEnvironment env) = n ↔
      s.Asked env n ∨ (∀ m, ¬ s.Asked env m) ∧ s.of {} = n) ∧
    (∀ (s : TextSetting) (value : Option String), s.of (ofEnvironment env) = value ↔
      (∃ text, s.Held env text ∧ some text = value) ∨
        (∀ text, ¬ s.Held env text) ∧ s.of {} = value) ∧
    (∀ env' : Environment,
      (∀ s : NumberSetting, env s.name = env' s.name →
        s.of (ofEnvironment env) = s.of (ofEnvironment env')) ∧
      ∀ s : TextSetting, env s.name = env' s.name →
        s.of (ofEnvironment env) = s.of (ofEnvironment env')) ∧
    ∀ c : Config, c.Fits → c.Legible →
      ∀ style others, ofEnvironment (c.rendered style others) = c := by
  refine ⟨fun s => s.of_ofEnvironment env, fun s => s.of_ofEnvironment env, fun env' => ⟨?_, ?_⟩,
    fun c hfits hlegible style others => ofEnvironment_rendered hfits hlegible⟩
  · intro s hsame
    refine (s.of_ofEnvironment env _).2 ?_
    simp only [NumberSetting.Asked, hsame]
    exact (s.of_ofEnvironment env' _).1 rfl
  · intro s hsame
    refine (s.of_ofEnvironment env _).2 ?_
    simp only [TextSetting.Held, hsame]
    exact (s.of_ofEnvironment env' _).1 rfl

/-- A configuration at its limits, its numbers written between blanks with a plus sign and zeros,
is read back; and whatever else is set, its pool size is. -/
theorem settings_as_asked_of_padded :
    let c : Config :=
      { poolSize := 18446744073709551615, createRetries := 4294967295, cacheDefaultTtl := 0
        duckdbDatabase := " data.db ", cacheUrl := some "memory://" }
    let style : NumberSetting → Digits.Style := fun _ =>
      { before := ['\u00A0', '\t'], plus := true, zeros := 2, after := ['\u2003'] }
    let env := c.rendered style fun _ => none
    c.Fits ∧ c.Legible ∧ ofEnvironment env = c ∧
      (ofEnvironment fun name => if name = "POOL_SIZE" then env name else some [0xFF]).poolSize =
        18446744073709551615 := by
  intro c style env
  have hfits : c.Fits := by
    intro s
    cases s <;> decide
  have hlegible : c.Legible := by
    intro s text htext
    cases s with
    | duckdbDatabase =>
        obtain rfl := Option.some.inj htext
        exact ⟨'d', by decide, by decide⟩
    | postgresUrl => cases htext
    | cacheUrl =>
        obtain rfl := Option.some.inj htext
        exact ⟨'m', by decide, by decide⟩
  obtain ⟨-, -, hagree, hback⟩ := settings_as_asked env
  have hread := hback c hfits hlegible style fun _ => none
  refine ⟨hfits, hlegible, hread, ?_⟩
  have hsame := (hagree fun name => if name = "POOL_SIZE" then env name else some [0xFF]).1
    .poolSize rfl
  exact hsame.symm.trans (congrArg Config.poolSize hread)

/-- One more than fits is as good as nothing. -/
example :
    (ofEnvironment fun name =>
      if name = "POOL_CREATE_RETRIES" then some (Utf8.ofString "4294967296") else none) = {} := by
  decide +kernel

end Config

end DataTier
