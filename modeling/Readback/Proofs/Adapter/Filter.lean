import Mathlib.Data.List.Induction
import Readback.Adapter.Faulty

/-!
# Fault injection as a filter

An injector of faults stands between the caller and an adapter. The adapter sees the calls that are not removed, in
their order; the caller sees the adapter's own replies to them, and an injected reply in the place of each other. The
calls are numbered from zero and separately for writes and reads, also those that are removed, so a call has another
number behind an injector than before it. A number is a word, as the injector's counters are.

- a call is answered by the injector or forwarded, according to its number (`faulty_call`);
- one more call keeps the filter (`Filtered.call`), so every sequence of calls does (`filtered_replies`);
- as long as fewer than `2 ^ 64` calls of a stage are made, the words are the numbers themselves (`Filtered.numbered`);
- it matters which faults there are, and not how they are listed (`sameFilter_of_mem_iff`, `sameFilter_of_failWrite`);
- adapters that reply alike do so behind an injector too (`RepliesAlike.faulty`), and one without faults does not show
  (`repliesAlike_faulty_nil`): so it is with any number of layers (`repliesAlike_layered`);
- **`faulty_filters`** puts this together.
-/

namespace Readback

variable {σ τ V : Type}

/-- What the caller sees of a reply. -/
def Reply.seen {α : Type} (r : Reply σ α) : Reply Unit α := r.within fun _ => ()

namespace Adapter

/-! ## Calls -/

/-- A call to be made. -/
inductive Request (V : Type) where
  | write (value : V)
  | read
  deriving DecidableEq

def Request.stage : Request V → Stage
  | .write _ => .write
  | .read => .read

/-- Makes a call. Only a read has a value for an answer. -/
def call (a : Adapter σ V) : Request V → σ → Reply σ (Option V)
  | .write v, s => { a.write v s with answer := (a.write v s).answer.map fun _ => none }
  | .read, s => { a.read s with answer := (a.read s).answer.map some }

/-- The state when the calls are made. -/
def after (a : Adapter σ V) : List (Request V) → σ → σ
  | [], s => s
  | r :: rs, s => a.after rs (a.call r s).state

/-- What the caller sees of the calls. -/
def replies (a : Adapter σ V) : List (Request V) → σ → List (Reply Unit (Option V))
  | [], _ => []
  | r :: rs, s => (a.call r s).seen :: a.replies rs (a.call r s).state

theorem after_concat (a : Adapter σ V) (rs : List (Request V)) (r : Request V) (s : σ) :
    a.after (rs ++ [r]) s = (a.call r (a.after rs s)).state := by
  induction rs generalizing s with
  | nil => rfl
  | cons q rs ih => exact ih _

theorem replies_concat (a : Adapter σ V) (rs : List (Request V)) (r : Request V) (s : σ) :
    a.replies (rs ++ [r]) s = a.replies rs s ++ [(a.call r (a.after rs s)).seen] := by
  induction rs generalizing s with
  | nil => rfl
  | cons q rs ih =>
    simp only [List.cons_append, replies, ih]
    rfl

/-! ## The calls that are removed -/

/-- A call with its number among those of the same stage. -/
structure Turn (V : Type) where
  request : Request V
  number : UInt64

/-- At each place, how many calls of the same stage were made before. -/
def ordinals (rs : List (Request V)) : List Nat := rs.mapIdx fun i r => (rs.take i).countP (·.stage = r.stage)

/-- The calls with their numbers. -/
def turns (rs : List (Request V)) : List (Turn V) :=
  rs.mapIdx fun i r => ⟨r, .ofNat ((rs.take i).countP (·.stage = r.stage))⟩

/-- The faults remove a write that is to fail or to be dropped, and a read that is to fail. -/
def Turn.Removed (faults : List Fault) : Turn V → Prop
  | ⟨.write _, k⟩ => .failWrite k ∈ faults ∨ .dropWrite k ∈ faults
  | ⟨.read, k⟩ => .failRead k ∈ faults

instance (faults : List Fault) : DecidablePred (Turn.Removed (V := V) faults)
  | ⟨.write _, k⟩ => inferInstanceAs (Decidable (.failWrite k ∈ faults ∨ .dropWrite k ∈ faults))
  | ⟨.read, k⟩ => inferInstanceAs (Decidable (.failRead k ∈ faults))

/-- The reply to a call that is removed. A failure names the number of the call; it wins over a drop. -/
def Turn.injected (faults : List Fault) : Turn V → Reply Unit (Option V)
  | ⟨.write _, k⟩ =>
    if .failWrite k ∈ faults then .fail ("injected write failure at call " ++ Numeral.natText k.toNat) ()
    else .ok none ()
  | ⟨.read, k⟩ => .fail ("injected read failure at call " ++ Numeral.natText k.toNat) ()

/-- The calls that are left, in order. -/
def survivors (faults : List Fault) (rs : List (Request V)) : List (Request V) :=
  ((turns rs).filter fun t => ¬ t.Removed faults).map Turn.request

theorem length_turns (rs : List (Request V)) : (turns rs).length = rs.length := List.length_mapIdx

theorem map_request_turns (rs : List (Request V)) : (turns rs).map Turn.request = rs := by
  refine List.ext_getElem ?_ fun i _ _ => ?_
  · rw [List.length_map, length_turns]
  · simp [turns]

theorem turns_concat (rs : List (Request V)) (r : Request V) :
    turns (rs ++ [r]) = turns rs ++ [⟨r, .ofNat (rs.countP (·.stage = r.stage))⟩] := by
  -- The calls made before an earlier place are the same.
  have hbefore :
      rs.mapIdx (fun i q => Turn.mk q (.ofNat (((rs ++ [r]).take i).countP (·.stage = q.stage)))) = turns rs := by
    refine List.mapIdx_eq_mapIdx_iff.mpr fun i hi => ?_
    rw [List.take_append_of_le_length (Nat.le_of_lt hi)]
  rw [turns, List.mapIdx_concat, hbefore, List.take_left]

theorem survivors_concat (faults : List Fault) (rs : List (Request V)) (r : Request V) :
    survivors faults (rs ++ [r]) =
      survivors faults rs ++ if Turn.Removed faults ⟨r, .ofNat (rs.countP (·.stage = r.stage))⟩ then [] else [r] := by
  rw [survivors, turns_concat, List.filter_append, List.map_append]
  congr 1
  split <;> simp [*]

/-- No call is removed for no faults. -/
theorem not_removed_nil : ∀ t : Turn V, ¬ t.Removed []
  | ⟨.write _, _⟩ => by simp [Turn.Removed]
  | ⟨.read, _⟩ => by simp [Turn.Removed]

theorem survivors_nil (rs : List (Request V)) : survivors [] rs = rs := by
  have hall : (turns rs).filter (fun t => ¬ t.Removed []) = turns rs :=
    List.filter_eq_self.mpr fun t _ => decide_eq_true (not_removed_nil t)
  rw [survivors, hall, map_request_turns]

end Adapter

/-! ## One call -/

namespace Injector

open Adapter (Request Turn)

/-- The call with the number that the injector gives it. -/
def turn (i : Injector) (r : Request V) : Turn V :=
  match r with
  | .write _ => ⟨r, i.writes⟩
  | .read => ⟨r, i.reads⟩

/-- The injector when it has counted the call. -/
def count (i : Injector) : Request V → Injector
  | .write _ => { i with writes := i.writes + 1 }
  | .read => { i with reads := i.reads + 1 }

@[simp] theorem faults_count (i : Injector) (r : Request V) : (i.count r).faults = i.faults := by
  cases r <;> rfl

end Injector

namespace Adapter

/-- **What a call does behind an injector.** -/
theorem faulty_call (inner : Adapter σ V) (i : Injector) (s : σ) (r : Request V) :
    inner.faulty.call r (i, s) =
      if (i.turn r).Removed i.faults then ((i.turn r).injected i.faults).within fun _ => (i.count r, s)
      else (inner.call r s).within (i.count r, ·) := by
  cases r with
  | write v =>
    simp only [call, faulty, Injector.write, Injector.turn, Injector.count, Turn.Removed, Turn.injected,
      List.contains_iff_mem]
    by_cases hfail : .failWrite i.writes ∈ i.faults
    · simp [hfail, Reply.fail, Reply.within, Except.map]
    · by_cases hdrop : .dropWrite i.writes ∈ i.faults
      · simp [hfail, hdrop, Reply.ok, Reply.within, Except.map]
      · simp [hfail, hdrop, Reply.within]
  | read =>
    simp only [call, faulty, Injector.read, Injector.turn, Injector.count, Turn.Removed, Turn.injected,
      List.contains_iff_mem]
    by_cases hfail : .failRead i.reads ∈ i.faults
    · simp [hfail, Reply.fail, Reply.within, Except.map]
    · simp [hfail, Reply.within]

/-! ## Call after call -/

/-- An injector with these faults, in front of an adapter in state `s`, was a filter: so the calls made of it, the
replies that the caller saw, and the state it is in with the adapter inside. -/
structure Filtered (inner : Adapter σ V) (faults : List Fault) (s : σ) (rs : List (Request V))
    (seen : List (Reply Unit (Option V))) (state : Injector × σ) : Prop where
  /-- All calls are counted. -/
  counted : state.1 = ⟨faults, .ofNat (rs.countP (·.stage = .write)), .ofNat (rs.countP (·.stage = .read))⟩
  /-- The adapter inside is as after the calls that are left. -/
  reached : state.2 = inner.after (survivors faults rs) s
  answered : seen.length = rs.length
  /-- The replies to the calls that are left are the adapter's own. -/
  forwarded : (((turns rs).zip seen).filter fun p => ¬ p.1.Removed faults).map Prod.snd =
    inner.replies (survivors faults rs) s
  /-- Each other call has the reply that is injected for it. -/
  injected : ∀ t reply, (t, reply) ∈ (turns rs).zip seen → t.Removed faults → reply = t.injected faults

namespace Filtered

variable {inner : Adapter σ V} {faults : List Fault} {s : σ} {rs : List (Request V)}
  {seen : List (Reply Unit (Option V))} {state : Injector × σ}

theorem nil (inner : Adapter σ V) (faults : List Fault) (s : σ) : Filtered inner faults s [] [] ({ faults }, s) where
  counted := rfl
  reached := rfl
  answered := rfl
  forwarded := rfl
  injected := by simp [turns]

/-- The injector gives a call its number. -/
theorem turn_eq (h : Filtered inner faults s rs seen state) (r : Request V) :
    state.1.turn r = ⟨r, .ofNat (rs.countP (·.stage = r.stage))⟩ := by
  rw [h.counted]
  cases r <;> rfl

theorem zip_concat (h : Filtered inner faults s rs seen state) (r : Request V) (reply : Reply Unit (Option V)) :
    (turns (rs ++ [r])).zip (seen ++ [reply]) = (turns rs).zip seen ++ [(state.1.turn r, reply)] := by
  rw [turns_concat, List.zip_append (by rw [length_turns, h.answered]), ← h.turn_eq r]
  rfl

theorem count_eq (h : Filtered inner faults s rs seen state) (r : Request V) :
    state.1.count r =
      ⟨faults, .ofNat ((rs ++ [r]).countP (·.stage = .write)), .ofNat ((rs ++ [r]).countP (·.stage = .read))⟩ := by
  rw [h.counted, List.countP_append, List.countP_append, UInt64.ofNat_add, UInt64.ofNat_add]
  cases r <;> simp [Injector.count, Request.stage]

theorem injected_concat (h : Filtered inner faults s rs seen state) {r : Request V} {reply : Reply Unit (Option V)}
    (hreply : (state.1.turn r).Removed faults → reply = (state.1.turn r).injected faults) (t : Turn V)
    (reply' : Reply Unit (Option V)) (ht : (t, reply') ∈ (turns (rs ++ [r])).zip (seen ++ [reply]))
    (hremoved : t.Removed faults) : reply' = t.injected faults := by
  rw [h.zip_concat, List.mem_append, List.mem_singleton] at ht
  rcases ht with ht | ht
  · exact h.injected t reply' ht hremoved
  · cases ht
    exact hreply hremoved

/-- A call that is removed. -/
theorem remove (h : Filtered inner faults s rs seen state) {r : Request V} (hr : (state.1.turn r).Removed faults) :
    Filtered inner faults s (rs ++ [r]) (seen ++ [(state.1.turn r).injected faults]) (state.1.count r, state.2) := by
  have hleft : survivors faults (rs ++ [r]) = survivors faults rs := by
    rw [survivors_concat, ← h.turn_eq r, if_pos hr, List.append_nil]
  constructor
  · exact h.count_eq r
  · rw [hleft]
    exact h.reached
  · rw [List.length_append, List.length_append, h.answered]
    rfl
  · rw [hleft, h.zip_concat, List.filter_append, List.map_append, h.forwarded]
    simp [hr]
  · exact h.injected_concat fun _ => rfl

/-- A call that is forwarded. -/
theorem forward (h : Filtered inner faults s rs seen state) {r : Request V} (hr : ¬ (state.1.turn r).Removed faults) :
    Filtered inner faults s (rs ++ [r]) (seen ++ [(inner.call r state.2).seen])
      (state.1.count r, (inner.call r state.2).state) := by
  have hleft : survivors faults (rs ++ [r]) = survivors faults rs ++ [r] := by
    rw [survivors_concat, ← h.turn_eq r, if_neg hr]
  constructor
  · exact h.count_eq r
  · rw [hleft, after_concat, ← h.reached]
  · rw [List.length_append, List.length_append, h.answered]
    rfl
  · rw [hleft, h.zip_concat, List.filter_append, List.map_append, h.forwarded, replies_concat, ← h.reached]
    simp [hr]
  · exact h.injected_concat fun hremoved => absurd hremoved hr

/-- **One more call keeps the filter.** -/
theorem call (h : Filtered inner faults s rs seen state) (r : Request V) :
    Filtered inner faults s (rs ++ [r]) (seen ++ [(inner.faulty.call r state).seen])
      (inner.faulty.call r state).state := by
  have hfaults : state.1.faults = faults := by rw [h.counted]
  rw [← Prod.eta state, faulty_call, hfaults]
  split
  · exact h.remove ‹_›
  · exact h.forward ‹_›

end Filtered

/-- **Every sequence of calls is filtered.** -/
theorem filtered_replies (inner : Adapter σ V) (faults : List Fault) (s : σ) (rs : List (Request V)) :
    Filtered inner faults s rs (inner.faulty.replies rs ({ faults }, s)) (inner.faulty.after rs ({ faults }, s)) := by
  induction rs using List.reverseRecOn with
  | nil => exact .nil inner faults s
  | append_singleton rs r ih =>
    rw [replies_concat, after_concat]
    exact ih.call r

/-- The words are numbers: the counters have the calls that were made, and each call the number of those of its stage
that were made before it. -/
structure Numbered (rs : List (Request V)) (i : Injector) : Prop where
  writes : i.writes.toNat = rs.countP (·.stage = .write)
  reads : i.reads.toNat = rs.countP (·.stage = .read)
  numbers : (turns rs).map (·.number.toNat) = ordinals rs

/-- **The words are numbers as long as fewer than `2 ^ 64` calls of a stage are made.** -/
theorem Filtered.numbered {inner : Adapter σ V} {faults : List Fault} {s : σ} {rs : List (Request V)}
    {seen : List (Reply Unit (Option V))} {state : Injector × σ} (h : Filtered inner faults s rs seen state)
    (hfew : ∀ stage, rs.countP (·.stage = stage) < UInt64.size) : Numbered rs state.1 := by
  constructor
  · rw [h.counted]
    exact UInt64.toNat_ofNat_of_lt' (hfew .write)
  · rw [h.counted]
    exact UInt64.toNat_ofNat_of_lt' (hfew .read)
  · refine List.ext_getElem ?_ fun i hi _ => ?_
    · rw [List.length_map, length_turns, ordinals, List.length_mapIdx]
    · simp only [turns, ordinals, List.getElem_map, List.getElem_mapIdx]
      -- No more calls were made before a place than at all.
      exact UInt64.toNat_ofNat_of_lt' (Nat.lt_of_le_of_lt ((List.take_sublist i rs).countP_le) (hfew _))

/-! ## Adapters that reply alike -/

section Alike

variable {a : Adapter σ V} {a' : Adapter τ V}

/-- If states that are related give the same replies and stay related, call by call, then also over all calls. -/
theorem replies_of_related {R : σ → τ → Prop}
    (hcall : ∀ r s t, R s t → (a'.call r t).seen = (a.call r s).seen ∧ R (a.call r s).state (a'.call r t).state)
    (rs : List (Request V)) {s : σ} {t : τ} (h : R s t) :
    a'.replies rs t = a.replies rs s ∧ R (a.after rs s) (a'.after rs t) := by
  induction rs generalizing s t with
  | nil => exact ⟨rfl, h⟩
  | cons r rs ih =>
    obtain ⟨hseen, hstate⟩ := hcall r s t h
    obtain ⟨hreplies, hafter⟩ := ih hstate
    refine ⟨?_, hafter⟩
    rw [replies, replies, hseen, hreplies]

variable (a a') in
/-- The caller cannot tell the two adapters apart. -/
def RepliesAlike (s : σ) (t : τ) : Prop := ∀ rs, a'.replies rs t = a.replies rs s

theorem RepliesAlike.call {s : σ} {t : τ} (h : a.RepliesAlike a' s t) (r : Request V) :
    (a'.call r t).seen = (a.call r s).seen ∧ a.RepliesAlike a' (a.call r s).state (a'.call r t).state := by
  constructor
  · exact (List.cons.inj (h [r])).1
  · exact fun rs => (List.cons.inj (h (r :: rs))).2

/-- Adapters that reply alike do so behind the same injector. -/
theorem RepliesAlike.faulty {s : σ} {t : τ} (h : a.RepliesAlike a' s t) (i : Injector) :
    a.faulty.RepliesAlike a'.faulty (i, s) (i, t) := by
  refine fun rs => (replies_of_related (R := fun x y => y.1 = x.1 ∧ a.RepliesAlike a' x.2 y.2) ?_ rs ⟨rfl, h⟩).1
  rintro r ⟨i, s⟩ ⟨_, t⟩ ⟨rfl, hst⟩
  obtain ⟨hseen, hstate⟩ := hst.call r
  rw [faulty_call, faulty_call]
  split
  · exact ⟨rfl, rfl, hst⟩
  · exact ⟨hseen, rfl, hstate⟩

/-- An injector without faults does not show. -/
theorem repliesAlike_faulty_nil (a : Adapter σ V) (s : σ) : a.RepliesAlike a.faulty s ({ faults := [] }, s) := by
  refine fun rs => (replies_of_related (R := fun s t => t.1.faults = [] ∧ t.2 = s) ?_ rs ⟨rfl, rfl⟩).1
  rintro r s ⟨i, _⟩ ⟨hi, rfl⟩
  rw [faulty_call, hi, if_neg (not_removed_nil _)]
  refine ⟨rfl, ?_, rfl⟩
  exact (i.faults_count r).trans hi

end Alike

/-! ## Which faults there are -/

/-- The two lists of faults make the same filter. -/
def SameFilter (inner : Adapter σ V) (faults faults' : List Fault) : Prop :=
  ∀ rs s, inner.faulty.replies rs ({ faults := faults' }, s) = inner.faulty.replies rs ({ faults }, s) ∧
    inner.faulty.after rs ({ faults := faults' }, s) =
      ({ (inner.faulty.after rs ({ faults }, s)).1 with faults := faults' },
        (inner.faulty.after rs ({ faults }, s)).2)

/-- Faults that remove the same calls, and that inject the same replies, make the same filter. -/
theorem sameFilter_of_removed (inner : Adapter σ V) {faults faults' : List Fault}
    (hremoved : ∀ t : Turn V, t.Removed faults' ↔ t.Removed faults)
    (hinjected : ∀ t : Turn V, t.injected faults' = t.injected faults) : inner.SameFilter faults faults' := by
  intro rs s
  -- The injectors differ in the list of their faults alone, and go on so.
  have hcall : ∀ (r : Request V) (x y : Injector × σ),
      x.1.faults = faults ∧ y = ({ x.1 with faults := faults' }, x.2) →
      (inner.faulty.call r y).seen = (inner.faulty.call r x).seen ∧
        (inner.faulty.call r x).state.1.faults = faults ∧
        (inner.faulty.call r y).state =
          ({ (inner.faulty.call r x).state.1 with faults := faults' }, (inner.faulty.call r x).state.2) := by
    rintro r ⟨i, s⟩ _ ⟨rfl, rfl⟩
    have hturn : Injector.turn { i with faults := faults' } r = i.turn r := by cases r <;> rfl
    have hcount : Injector.count { i with faults := faults' } r = { i.count r with faults := faults' } := by
      cases r <;> rfl
    rw [faulty_call, faulty_call, hturn, hcount]
    simp only [hremoved, hinjected]
    split
    · exact ⟨rfl, i.faults_count r, rfl⟩
    · exact ⟨rfl, i.faults_count r, rfl⟩
  obtain ⟨hreplies, -, hafter⟩ := replies_of_related hcall rs (s := ({ faults }, s)) ⟨rfl, rfl⟩
  exact ⟨hreplies, hafter⟩

/-- The order of the faults and their repetition do not matter. -/
theorem sameFilter_of_mem_iff (inner : Adapter σ V) {faults faults' : List Fault}
    (h : ∀ f, f ∈ faults' ↔ f ∈ faults) : inner.SameFilter faults faults' := by
  refine inner.sameFilter_of_removed ?_ ?_
  · rintro ⟨_ | _, k⟩ <;> simp only [Turn.Removed, h]
  · rintro ⟨_ | _, k⟩ <;> simp only [Turn.injected, h]

/-- A drop does not matter where a failure is. -/
theorem sameFilter_of_failWrite (inner : Adapter σ V) {faults : List Fault} {k : UInt64} (h : .failWrite k ∈ faults) :
    inner.SameFilter faults (.dropWrite k :: faults) := by
  refine inner.sameFilter_of_removed ?_ ?_
  · rintro ⟨_ | _, j⟩
    · simp only [Turn.Removed, List.mem_cons, reduceCtorEq, false_or, Fault.dropWrite.injEq]
      constructor
      · rintro (hfail | rfl | hdrop)
        · exact .inl hfail
        · exact .inl h
        · exact .inr hdrop
      · rintro (hfail | hdrop)
        · exact .inl hfail
        · exact .inr (.inr hdrop)
    · simp [Turn.Removed]
  · rintro ⟨_ | _, j⟩ <;> simp [Turn.injected]

/-! ## Layers of injectors -/

/-- The state of an adapter behind layers of injectors, the outermost first. -/
def Layered (σ : Type) : List (List Fault) → Type
  | [] => σ
  | _ :: layers => Injector × Layered σ layers

/-- The adapter behind layers of injectors. -/
def layered (inner : Adapter σ V) : (layers : List (List Fault)) → Adapter (Layered σ layers) V
  | [] => inner
  | _ :: layers => (inner.layered layers).faulty

namespace Layered

/-- Before the first call. -/
def start (s : σ) : (layers : List (List Fault)) → Layered σ layers
  | [] => s
  | faults :: layers => ({ faults }, start s layers)

/-- The state of the adapter inside. -/
def core : (layers : List (List Fault)) → Layered σ layers → σ
  | [], s => s
  | _ :: layers, (_, s) => core layers s

end Layered

/-- What the caller sees of the calls made through the layers. -/
def layeredReplies (inner : Adapter σ V) (layers : List (List Fault)) (rs : List (Request V)) (s : σ) :
    List (Reply Unit (Option V)) :=
  (inner.layered layers).replies rs (Layered.start s layers)

/-- The state of the adapter inside when the calls are made through the layers. -/
def layeredAfter (inner : Adapter σ V) (layers : List (List Fault)) (rs : List (Request V)) (s : σ) : σ :=
  Layered.core layers ((inner.layered layers).after rs (Layered.start s layers))

/-- The calls that come through all layers. -/
def survivorsOf (layers : List (List Fault)) (rs : List (Request V)) : List (Request V) :=
  layers.foldl (fun rs faults => survivors faults rs) rs

/-- **The adapter inside sees the calls that come through all layers.** -/
theorem layeredAfter_eq (inner : Adapter σ V) (s : σ) :
    ∀ (layers : List (List Fault)) (rs : List (Request V)),
      inner.layeredAfter layers rs s = inner.after (survivorsOf layers rs) s
  | [], _ => rfl
  | faults :: layers, rs => by
    have h := (filtered_replies (inner.layered layers) faults (Layered.start s layers) rs).reached
    refine (congrArg (Layered.core layers) h).trans ?_
    exact layeredAfter_eq inner s layers (survivors faults rs)

/-- **Layers without faults do not show.** -/
theorem repliesAlike_layered (inner : Adapter σ V) (s : σ) :
    ∀ layers : List (List Fault),
      (inner.layered (layers.filter (! ·.isEmpty))).RepliesAlike (inner.layered layers)
        (Layered.start s (layers.filter (! ·.isEmpty))) (Layered.start s layers)
  | [] => fun _ => rfl
  | [] :: layers => fun rs =>
    (repliesAlike_faulty_nil (inner.layered layers) (Layered.start s layers) rs).trans
      (repliesAlike_layered inner s layers rs)
  | (f :: faults) :: layers => (repliesAlike_layered inner s layers).faulty { faults := f :: faults }

theorem survivorsOf_replicate_nil (rs : List (Request V)) : ∀ n, survivorsOf (List.replicate n []) rs = rs
  | 0 => rfl
  | n + 1 => by
    show survivorsOf (List.replicate n []) (survivors [] rs) = rs
    rw [survivors_nil, survivorsOf_replicate_nil rs n]

/-- **An injector of faults is a filter in front of its adapter.** Whatever calls are made, the adapter inside is as
after the calls that are left; these have its own replies, the others those that are injected, and all are counted. The
numbers of the calls and the counters are words of 64 bits, as the numbers of the faults are: for fewer than `2 ^ 64`
calls of a stage they are the numbers of the calls made before. It matters which faults there are and not how they are
listed, and a failure wins over a drop. Behind layers of injectors, the adapter sees what comes through all of them;
layers without faults do not show, so an adapter behind such layers only cannot be told from itself. -/
theorem faulty_filters (inner : Adapter σ V) (faults : List Fault) (s : σ) (rs : List (Request V)) :
    Filtered inner faults s rs (inner.faulty.replies rs ({ faults }, s)) (inner.faulty.after rs ({ faults }, s)) ∧
      ((∀ stage, rs.countP (·.stage = stage) < UInt64.size) →
        Numbered rs (inner.faulty.after rs ({ faults }, s)).1) ∧
      (∀ faults', (∀ f, f ∈ faults' ↔ f ∈ faults) → inner.SameFilter faults faults') ∧
      (∀ k, .failWrite k ∈ faults → inner.SameFilter faults (.dropWrite k :: faults)) ∧
      (∀ layers, inner.layeredAfter layers rs s = inner.after (survivorsOf layers rs) s) ∧
      (∀ layers, inner.layeredReplies layers rs s = inner.layeredReplies (layers.filter (! ·.isEmpty)) rs s) ∧
      ∀ n, inner.layeredReplies (List.replicate n []) rs s = inner.replies rs s ∧
        inner.layeredAfter (List.replicate n []) rs s = inner.after rs s := by
  have hshow (layers : List (List Fault)) :
      inner.layeredReplies layers rs s = inner.layeredReplies (layers.filter (! ·.isEmpty)) rs s :=
    repliesAlike_layered inner s layers rs
  refine ⟨filtered_replies inner faults s rs, (filtered_replies inner faults s rs).numbered,
    fun _ => inner.sameFilter_of_mem_iff,
    fun _ => inner.sameFilter_of_failWrite, fun layers => layeredAfter_eq inner s layers rs, hshow, ?_⟩
  intro n
  constructor
  · have hnone : (List.replicate n ([] : List Fault)).filter (! ·.isEmpty) = [] := by simp
    rw [hshow, hnone]
    rfl
  · rw [layeredAfter_eq, survivorsOf_replicate_nil]

/-- A read that fails, a write that fails and one that is dropped. -/
def callFaults : List Fault := [.dropWrite 2, .failWrite 1, .failRead 0]

def mixedCalls : List (Request Int64) := [.write 5, .read, .write 6, .write 7, .read]

def threeWrites : List (Request Int64) := [.write 5, .write 6, .write 7]

/-- Of five calls two are left, and the cell keeps the first value. Where the outer of two injectors drops its first
write, the inner one fails the second of the caller's writes. -/
theorem faulty_filters_mixed :
    survivors callFaults mixedCalls = [.write 5, .read] ∧
      (memoryCell Int64).faulty.after mixedCalls ({ faults := callFaults }, none) = (⟨callFaults, 3, 2⟩, some 5) ∧
      (turns mixedCalls).map (·.number.toNat) = [0, 0, 1, 2, 1] ∧
      (memoryCell Int64).SameFilter callFaults (callFaults.reverse ++ callFaults) ∧
      (memoryCell Int64).SameFilter callFaults (.dropWrite 1 :: callFaults) ∧
      (memoryCell Int64).layeredAfter [[.dropWrite 0], [.failWrite 0]] threeWrites none = some 7 := by
  have hleft : survivors callFaults mixedCalls = [.write 5, .read] := by decide
  obtain ⟨hfiltered, hnumbered, hlisted, hwins, -⟩ := faulty_filters (memoryCell Int64) callFaults none mixedCalls
  obtain ⟨-, -, -, -, hlayers, -⟩ := faulty_filters (memoryCell Int64) [] none threeWrites
  have hreached := hfiltered.reached
  rw [hleft] at hreached
  have hnumbers := (hnumbered fun stage => Nat.lt_of_le_of_lt List.countP_le_length (by decide)).numbers
  refine ⟨hleft, Prod.ext hfiltered.counted hreached, hnumbers, hlisted _ (by simp), hwins 1 (by decide), ?_⟩
  rw [hlayers]
  rfl

end Adapter

end Readback
