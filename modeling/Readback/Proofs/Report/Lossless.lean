import Readback.Proofs.Json.Fieldwise
import Readback.Report.Encoding

/-!
# Results read back from JSON

The JSON of a result loses nothing but the times of the run: a reader who looks its fields up by name, in whatever
order they stand and whatever other fields stand among them, has the result back.

- the fields of an outcome and those of the round around it have different names (`Round.nodup_fields`), so those of
  the outcome are found (`Round.lookup_outcome`), and so is a value read back, if there is one
  (`Round.lookup_observed`);
- an outcome, a round, a tally and a result are read back from their fields (`Outcome.ofJson?_eq`, `Round.ofJson?_eq`,
  `Tally.ofJson?_eq`, `RunResult.ofJson?_eq`), if the values in them are (`Reads`);
- **`RunResult.json_lossless`**: so the JSON of a result determines it, for every equality of JSON values that compares
  objects field by field.
-/

namespace Readback

/-! ## Readers -/

namespace Json

/-- Reads a counter of 64 bits. -/
def counter? : Json → Option UInt64
  | .int (.ofNat n) => if h : n < UInt64.size then some (.ofNatLT n h) else none
  | _ => none

/-- Reads an integer of 64 bits. -/
def int64? : Json → Option Int64
  | .int n => if (Int64.ofInt n).toInt = n then some (.ofInt n) else none
  | _ => none

/-- Reads a text. -/
def str? : Json → Option String
  | .str s => some s
  | _ => none

/-- Reads a truth value. -/
def bool? : Json → Option Bool
  | .bool b => some b
  | _ => none

/-- Reads the items of an array. -/
def arr? : Json → Option (List Json)
  | .arr items => some items
  | _ => none

@[simp] theorem counter?_counter (n : UInt64) : (counter n).counter? = some n := by
  show (if h : n.toNat < UInt64.size then some (UInt64.ofNatLT n.toNat h) else none) = some n
  rw [dif_pos n.toNat_lt, UInt64.ofNatLT_toNat]

@[simp] theorem str?_str (s : String) : (Json.str s).str? = some s := rfl

@[simp] theorem bool?_bool (b : Bool) : (Json.bool b).bool? = some b := rfl

end Json

/-- Reads a stage. -/
def Stage.ofText? : String → Option Stage
  | "write" => some .write
  | "read" => some .read
  | _ => none

@[simp] theorem Stage.ofText?_text (stage : Stage) : Stage.ofText? stage.text = some stage := by
  cases stage <;> rfl

/-- Reads a retention. -/
def Retention.ofText? : String → Option Retention
  | "all" => some .all
  | "failures_only" => some .failuresOnly
  | _ => none

@[simp] theorem Retention.ofText?_text (retention : Retention) :
    Retention.ofText? retention.text = some retention := by
  cases retention <;> rfl

/-- Reads an outcome from the fields around it. -/
def Outcome.ofJson? (j : Json) : Option Outcome := do
  match ← (← j.field? "outcome").str? with
  | "pass" => some .pass
  | "mismatch" => some .mismatch
  | "adapter_error" =>
    let stage ← Stage.ofText? (← (← j.field? "stage").str?)
    let cause ← (← j.field? "cause").str?
    some (.adapterError stage cause)
  | _ => none

/-- Reads a tally. -/
def Tally.ofJson? (j : Json) : Option Tally := do
  let passed ← (← j.field? "passed").counter?
  let mismatched ← (← j.field? "mismatched").counter?
  let adapterErrors ← (← j.field? "adapter_errors").counter?
  some ⟨passed, mismatched, adapterErrors⟩

section Values

variable {V : Type} (value? : Json → Option V)

/-- Reads a round, given how to read a value. -/
def Round.ofJson? (j : Json) : Option (Round V) := do
  let index ← (← j.field? "index").counter?
  let input ← value? (← j.field? "input")
  let observed ← match j.field? "observed" with
    | none => some none
    | some k => (value? k).map some
  let outcome ← Outcome.ofJson? j
  some ⟨index, input, observed, outcome⟩

/-- Reads a result. It has come to its end if there is a time for that. -/
def RunResult.ofJson? (j : Json) : Option (RunResult V) := do
  let seed ← (← j.field? "seed").counter?
  let domain ← (← j.field? "domain").str?
  let roundsRequested ← (← j.field? "rounds_requested").counter?
  let roundsCompleted ← (← j.field? "rounds_completed").counter?
  let retention ← Retention.ofText? (← (← j.field? "retention").str?)
  let rounds ← (← (← j.field? "rounds").arr?).mapM (Round.ofJson? value?)
  let tally ← Tally.ofJson? (← j.field? "tally")
  let cancelled ← (← j.field? "cancelled").bool?
  let finished := (j.field? "finished_at").isSome
  some ⟨⟨seed⟩, domain, roundsRequested, roundsCompleted, retention, rounds.toArray, tally, cancelled, finished⟩

end Values

/-! ## Fields and their names -/

variable {V : Type} [Value V]

/-- The fields of a round that are not those of its outcome. -/
def Round.ownFields (r : Round V) : List (String × Json) :=
  [("index", .counter r.index), ("input", Value.json r.input)] ++ Json.optionalField "observed" Value.json r.observed

theorem Round.json_eq (r : Round V) : r.json = .obj (r.ownFields ++ r.outcome.fields) := rfl

/-- **No field of a round has the name of another**, be it one of its own or one of its outcome. -/
theorem Round.nodup_fields (r : Round V) : ((r.ownFields ++ r.outcome.fields).map Prod.fst).Nodup := by
  obtain ⟨index, input, observed, outcome⟩ := r
  cases observed <;> cases outcome <;> simp [ownFields, Json.optionalField, Outcome.fields]

theorem RunResult.nodup_fields (r : RunResult V) : (r.fields.map Prod.fst).Nodup := by
  simp [fields]

/-- So a field of the outcome is found among all of them. -/
theorem Round.lookup_outcome (r : Round V) {name : String} {x : Json} (hx : r.outcome.fields.lookup name = some x) :
    (r.ownFields ++ r.outcome.fields).lookup name = some x :=
  Json.lookup_of_mem r.nodup_fields (List.mem_append_right _ (Json.mem_of_lookup hx))

/-- And a value read back is found only if there is one. -/
theorem Round.lookup_observed (r : Round V) :
    (r.ownFields ++ r.outcome.fields).lookup "observed" = r.observed.map Value.json := by
  obtain ⟨index, input, observed, outcome⟩ := r
  cases observed <;> cases outcome <;> rfl

theorem Outcome.isScalar_of_lookup {o : Outcome} {name : String} {x : Json} (hx : o.fields.lookup name = some x) :
    x.isScalar = true := by
  have hmem := Json.mem_of_lookup hx
  cases o with
  | pass | mismatch =>
    cases List.mem_singleton.mp hmem
    rfl
  | adapterError stage cause =>
    simp only [fields, List.mem_cons, List.not_mem_nil, or_false, Prod.mk.injEq] at hmem
    rcases hmem with ⟨-, rfl⟩ | ⟨-, rfl⟩ | ⟨-, rfl⟩ <;> rfl

/-! ## Reading back -/

/-- An outcome is read back wherever its fields are found. -/
theorem Outcome.ofJson?_eq {o : Outcome} {j : Json}
    (hfields : ∀ name x, o.fields.lookup name = some x → j.field? name = some x) : Outcome.ofJson? j = some o := by
  cases o with
  | pass =>
    have houtcome := hfields "outcome" _ rfl
    simp [ofJson?, houtcome]
  | mismatch =>
    have houtcome := hfields "outcome" _ rfl
    simp [ofJson?, houtcome]
  | adapterError stage cause =>
    have houtcome := hfields "outcome" _ rfl
    have hstage := hfields "stage" _ rfl
    have hcause := hfields "cause" _ rfl
    simp [ofJson?, houtcome, hstage, hcause]

section Reading

variable {E : Json → Json → Prop} {value? : Json → Option V}

/-- The function reads every value back from its JSON. -/
def Reads (E : Json → Json → Prop) (value? : Json → Option V) : Prop :=
  ∀ (v : V) (k : Json), E (Value.json v) k → value? k = some v

/-- Where no two values have equal JSON, there is such a function. -/
theorem exists_reads (hE : Json.Fieldwise E) (hvalues : ∀ v w : V, E (Value.json v) (Value.json w) → v = w) :
    ∃ value? : Json → Option V, Reads E value? := by
  classical
  refine ⟨fun k => if h : ∃ v : V, E (Value.json v) k then some h.choose else none, fun v k hk => ?_⟩
  have hex : ∃ w : V, E (Value.json w) k := ⟨v, hk⟩
  have hchosen := hvalues _ _ (hE.equivalence.trans hex.choose_spec (hE.equivalence.symm hk))
  simp only [dif_pos hex, hchosen]

/-- And only there. -/
theorem Reads.injective (hE : Json.Fieldwise E) (h : Reads E value?) (v w : V)
    (hvw : E (Value.json v) (Value.json w)) : v = w := by
  have hfirst := h v _ hvw
  rw [h w _ (hE.equivalence.refl _)] at hfirst
  exact (Option.some.inj hfirst).symm

variable (hE : Json.Fieldwise E) (hvalue : Reads E value?) {j : Json}

include hE

theorem Tally.ofJson?_eq {t : Tally} (h : E t.json j) : Tally.ofJson? j = some t := by
  have hpassed := hE.field_scalar "passed" h rfl rfl
  have hmismatched := hE.field_scalar "mismatched" h rfl rfl
  have herrors := hE.field_scalar "adapter_errors" h rfl rfl
  simp [ofJson?, hpassed, hmismatched, herrors]

include hvalue

/-- A round is read back, and without a value where none was read. -/
theorem Round.ofJson?_eq {r : Round V} (h : E r.json j) : Round.ofJson? value? j = some r := by
  rw [Round.json_eq] at h
  have houtcome : Outcome.ofJson? j = some r.outcome :=
    Outcome.ofJson?_eq fun name x hx => hE.field_scalar name h (r.lookup_outcome hx) (Outcome.isScalar_of_lookup hx)
  have hobserved := r.lookup_observed
  obtain ⟨index, input, observed, outcome⟩ := r
  have hindex := hE.field_scalar "index" h rfl rfl
  obtain ⟨y, hinput, hy⟩ := hE.field_some "input" h rfl
  cases observed with
  | none =>
    have hnone := hE.field_none "observed" h hobserved
    simp [ofJson?, hindex, hinput, hvalue _ _ hy, hnone, houtcome]
  | some v =>
    obtain ⟨z, hsome, hz⟩ := hE.field_some "observed" h hobserved
    simp [ofJson?, hindex, hinput, hvalue _ _ hy, hsome, hvalue _ _ hz, houtcome]

/-- So are all rounds of an array. -/
theorem Round.mapM_ofJson?_eq {rounds : List (Round V)} {items : List Json}
    (h : List.Forall₂ E (rounds.map Round.json) items) : items.mapM (Round.ofJson? value?) = some rounds := by
  induction rounds generalizing items with
  | nil =>
    cases h
    rfl
  | cons r rounds ih =>
    cases h with
    | cons hr hrounds => simp [List.mapM_cons, Round.ofJson?_eq hE hvalue hr, ih hrounds]

/-- **A result is read back wherever its fields are found**; that it came to its end is told by its times alone. -/
theorem RunResult.ofJson?_eq {r : RunResult V}
    (hfields : ∀ name x, r.fields.lookup name = some x → ∃ y, j.field? name = some y ∧ E x y) :
    RunResult.ofJson? value? j = some { r with finished := (j.field? "finished_at").isSome } := by
  have hscalar : ∀ name x, r.fields.lookup name = some x → x.isScalar = true → j.field? name = some x := by
    intro name x hx hs
    obtain ⟨y, hy, hxy⟩ := hfields name x hx
    rw [hy, hE.scalar hs hxy]
  obtain ⟨y, hrounds, hy⟩ := hfields "rounds" _ rfl
  obtain ⟨items, rfl, hitems⟩ := hE.arr hy
  obtain ⟨z, htally, hz⟩ := hfields "tally" _ rfl
  simp [ofJson?, hscalar "seed" _ rfl rfl, hscalar "domain" _ rfl rfl, hscalar "rounds_requested" _ rfl rfl,
    hscalar "rounds_completed" _ rfl rfl, hscalar "retention" _ rfl rfl, hrounds, Json.arr?,
    Round.mapM_ofJson?_eq hE hvalue hitems, htally, Tally.ofJson?_eq hE hz, hscalar "cancelled" _ rfl rfl]

/-- Without times, a result is read back as one that is still under way. -/
theorem RunResult.ofJson?_json {r : RunResult V} (h : E r.json j) :
    RunResult.ofJson? value? j = some { r with finished := false } := by
  have hfinished := hE.field_none "finished_at" h rfl
  rw [RunResult.ofJson?_eq hE hvalue fun name x hx => hE.field_some name h hx, hfinished, Option.isSome_none]

/-- From the full report, a result is read back whole. -/
theorem RunResult.ofJson?_report {r : RunResult V} {s : Summary} {times : Times} (h : E (reportJson r s times) j) :
    (j.field? "result").bind (RunResult.ofJson? value?) = some r := by
  obtain ⟨k, hresult, hk⟩ := hE.field_some "result" h rfl
  have hfields : ∀ name x, r.fields.lookup name = some x → ∃ y, k.field? name = some y ∧ E x y := by
    intro name x hx
    refine hE.field_some name hk ?_
    rw [List.append_assoc, List.lookup_append, hx, Option.some_or]
  have hfinished : (k.field? "finished_at").isSome = r.finished := by
    cases hf : r.finished with
    | true =>
      rw [hf] at hk
      rw [hE.field_scalar "finished_at" hk rfl rfl, Option.isSome_some]
    | false =>
      rw [hf] at hk
      rw [hE.field_none "finished_at" hk rfl, Option.isSome_none]
  rw [hresult, Option.bind_some, RunResult.ofJson?_eq hE hvalue hfields, hfinished]

end Reading

/-- Integers of 64 bits are read back. -/
theorem reads_int64 {E : Json → Json → Prop} (hE : Json.Fieldwise E) : Reads E Json.int64? := by
  intro v k hk
  cases hE.scalar rfl hk
  simp [Value.json, Json.int64?]

/-! ## Nothing is lost -/

/-- **The JSON of a result loses nothing but its times.** Let JSON values be compared in any way that goes field by
field, and let no two values have equal JSON. No field of a result or of a round has the name of another, where the
fields of a round are its own and those of its outcome. Results with equal JSON are equal, and they are read back from
it by name, given a way to read values; and there is one. -/
theorem RunResult.json_lossless {E : Json → Json → Prop} (hE : Json.Fieldwise E)
    (hvalues : ∀ v w : V, E (Value.json v) (Value.json w) → v = w) :
    (∀ r : RunResult V, (r.fields.map Prod.fst).Nodup ∧ ∀ round ∈ r.rounds,
      round.json = .obj (round.ownFields ++ round.outcome.fields) ∧
      ((round.ownFields ++ round.outcome.fields).map Prod.fst).Nodup) ∧
    (∀ r r' : RunResult V, E r.json r'.json → r' = { r with finished := r'.finished }) ∧
    (∀ (r r' : RunResult V) (s s' : Summary) (times times' : Times),
      E (reportJson r s times) (reportJson r' s' times') → r' = r) ∧
    (∃ value? : Json → Option V, Reads E value?) ∧
    ∀ value? : Json → Option V, Reads E value? → ∀ (r : RunResult V) (j : Json),
      (E r.json j → RunResult.ofJson? value? j = some { r with finished := false }) ∧
      ∀ (s : Summary) (times : Times), E (reportJson r s times) j →
        (j.field? "result").bind (RunResult.ofJson? value?) = some r := by
  obtain ⟨value?, hvalue⟩ := exists_reads hE hvalues
  refine ⟨fun r => ⟨r.nodup_fields, fun round _ => ⟨round.json_eq, round.nodup_fields⟩⟩, ?_, ?_, ⟨value?, hvalue⟩, ?_⟩
  · intro r r' h
    -- Both are what is read from the JSON of the second.
    have hfirst := RunResult.ofJson?_json hE hvalue h
    have hsecond := RunResult.ofJson?_json hE hvalue (hE.equivalence.refl r'.json)
    rw [hfirst, Option.some.injEq] at hsecond
    obtain ⟨⟩ := r
    obtain ⟨⟩ := r'
    cases hsecond
    rfl
  · intro r r' s s' times times' h
    have hfirst := RunResult.ofJson?_report hE hvalue h
    have hsecond := RunResult.ofJson?_report hE hvalue (hE.equivalence.refl (reportJson r' s' times'))
    rw [hfirst, Option.some.injEq] at hsecond
    exact hsecond.symm
  · intro value? hvalue r j
    exact ⟨RunResult.ofJson?_json hE hvalue, fun s times => RunResult.ofJson?_report hE hvalue⟩

namespace RunResult

/-- A run of one round, in which no value was read. -/
def unread : RunResult Int64 where
  seed := ⟨1⟩
  domain := "[7, 7]"
  roundsRequested := 1
  roundsCompleted := 1
  retention := .all
  rounds := #[⟨0, 7, none, .adapterError .read "timed out"⟩]
  tally := ⟨0, 0, 1⟩

/-- That a value is absent shows in the JSON; the fields may come in another order; and the full report has them all. -/
theorem json_lossless_unread :
    ¬ Json.Same unread.json
      ({ unread with rounds := #[⟨0, 7, some 7, .adapterError .read "timed out"⟩] } : RunResult Int64).json ∧
    RunResult.ofJson? Json.int64? (.obj unread.fields.reverse) = some unread ∧
    ((reportJson unread (.ofResult unread) ⟨"noon", "one"⟩).field? "result").bind (RunResult.ofJson? Json.int64?) =
      some unread := by
  have hE := Json.fieldwise_same
  obtain ⟨hnames, hequal, -, -, hread⟩ := RunResult.json_lossless hE ((reads_int64 hE).injective hE)
  refine ⟨?_, ?_, ?_⟩
  · intro h
    have hrounds := congrArg RunResult.rounds (hequal _ _ h)
    simp [unread] at hrounds
  · have hsame : Json.Same unread.json (.obj unread.fields.reverse) :=
      .of_perm (hnames unread).1 unread.fields.reverse_perm.symm
    exact (hread Json.int64? (reads_int64 hE) unread _).1 hsame
  · have hEq := Json.fieldwise_eq
    obtain ⟨-, -, -, -, hreport⟩ := RunResult.json_lossless hEq ((reads_int64 hEq).injective hEq)
    exact (hreport Json.int64? (reads_int64 hEq) unread _).2 _ _ rfl

end RunResult

end Readback
