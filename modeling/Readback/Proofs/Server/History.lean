import Readback.Proofs.Target.Transport

/-!
# The history of a server

What a server holds is known from the requests that it was sent and the answers that it gave. `taken` are the requests
to store a value that were answered with 204; all others leave no trace. The server counts them in words of 64 bits.

- a request is a write that is taken, or it changes nothing (`Store.handle_cases`);
- one more request keeps the server in accord with its history, and so do any number of them (`Accords.handle`,
  `Accords.handleAll`): the counter is the number of the writes taken, the value that of the last one not dropped;
- as long as fewer than `2 ^ 64` writes are taken, the words are the numbers themselves (`Accords.numbered`);
- a request to see the value shows what is held (`Store.shows_handle`);
- **`handleAll_accords`**: all this holds for every sequence of requests, at its end and at each of its places.
-/

namespace Readback.Server

open Http (Request Response)

/-! ## Requests and their answers -/

/-- A request to store a value. -/
def asksToStore (r : Request) : Bool := r.method = "PUT" ∧ r.path = "/value"

/-- A request to see the value. -/
def asksToSee (r : Request) : Bool := r.method = "GET" ∧ r.path = "/value"

/-- A request is a write that the server took. -/
def isTaken (r : Request) (answer : Response) : Bool := asksToStore r ∧ answer.status = 204

/-- The writes that were taken, in order. -/
def taken (rs : List Request) (answers : List Response) : List Request :=
  ((rs.zip answers).filter fun (r, answer) => isTaken r answer).map Prod.fst

/-- The last of the values whose place is not one to drop. -/
def lastKept (drops : Nat → Prop) [DecidablePred drops] (values : List Int64) : Option Int64 :=
  (values.zipIdx.filter fun (_, place) => ¬ drops place).getLast?.map Prod.fst

/-- The write in that place is the one to drop, as the server counts. -/
def DropsWord (dropWrite : Option UInt64) (place : Nat) : Prop := dropWrite = some (.ofNat place)

/-- The write in that place is the one to drop. -/
def Drops (dropWrite : Option UInt64) (place : Nat) : Prop := dropWrite.map UInt64.toNat = some place

instance (dropWrite : Option UInt64) : DecidablePred (DropsWord dropWrite) := fun _ =>
  inferInstanceAs (Decidable (_ = _))

instance (dropWrite : Option UInt64) : DecidablePred (Drops dropWrite) := fun _ =>
  inferInstanceAs (Decidable (_ = _))

theorem taken_append {rs rs' : List Request} {answers answers' : List Response} (h : rs.length = answers.length) :
    taken (rs ++ rs') (answers ++ answers') = taken rs answers ++ taken rs' answers' := by
  rw [taken, List.zip_append h, List.filter_append, List.map_append]
  rfl

theorem taken_singleton_of_isTaken {r : Request} {answer : Response} (h : isTaken r answer = true) :
    taken [r] [answer] = [r] := by
  simp [taken, h]

theorem taken_singleton_of_not_isTaken {r : Request} {answer : Response} (h : isTaken r answer = false) :
    taken [r] [answer] = [] := by
  simp [taken, h]

theorem lastKept_append_singleton (drops : Nat → Prop) [DecidablePred drops] (values : List Int64) (v : Int64) :
    lastKept drops (values ++ [v]) = if drops values.length then lastKept drops values else some v := by
  rw [lastKept, List.zipIdx_append, List.filter_append, Nat.zero_add, List.zipIdx_singleton]
  by_cases h : drops values.length
  · simp [lastKept, h]
  · simp [h]

/-- What matters is which of the places are to drop. -/
theorem lastKept_congr {drops drops' : Nat → Prop} [DecidablePred drops] [DecidablePred drops'] {values : List Int64}
    (h : ∀ place < values.length, drops place ↔ drops' place) : lastKept drops values = lastKept drops' values := by
  rw [lastKept, lastKept]
  congr 2
  refine List.filter_congr fun p hp => ?_
  simp only [h p.2 (List.snd_lt_of_mem_zipIdx hp)]

/-- A word that stands for a place below `2 ^ 64` is that place. -/
theorem dropsWord_iff_drops (dropWrite : Option UInt64) {place : Nat} (h : place < UInt64.size) :
    DropsWord dropWrite place ↔ Drops dropWrite place := by
  cases dropWrite with
  | none => simp [DropsWord, Drops]
  | some n =>
    simp only [DropsWord, Drops, Option.map_some, Option.some.injEq, ← UInt64.toNat_inj]
    rw [UInt64.toNat_ofNat_of_lt' h]

/-! ## One request -/

theorem Route.ofPath?_eq_value {path : String} (h : Route.ofPath? path = some .value) : path = "/value" := by
  unfold Route.ofPath? at h
  split at h
  · cases h
  · rfl
  · cases h

theorem Route.answer_of_not_put {route : Route} {r : Request} (s : Store) (h : route = .value → r.method ≠ "PUT") :
    (route.answer s r).2 = s := by
  unfold Route.answer
  split
  case h_5 hput => exact absurd hput (h rfl)
  all_goals rfl

/-- A request that does not ask to store a value leaves the server as it is. -/
theorem Store.handle_of_not_put {r : Request} (s : Store) (h : ¬ (r.method = "PUT" ∧ r.path = "/value")) :
    (s.handle r).2 = s := by
  unfold Store.handle
  split
  · rfl
  · dsimp only
    split
    · next route hroute =>
      refine Route.answer_of_not_put s fun hvalue hmethod => h ⟨hmethod, ?_⟩
      exact Route.ofPath?_eq_value (hroute.trans (congrArg some hvalue))
    · rfl

/-- A write that is refused is answered as refused, and leaves the server as it is. -/
theorem Store.handle_refused {r : Request} {refusal : Refusal} (s : Store) (hmethod : r.method = "PUT")
    (hpath : r.path = "/value") (haccept : accept r = .error refusal) :
    (s.handle r).1.status ≠ 204 ∧ (s.handle r).2 = s := by
  have hroute : Route.ofPath? r.path = some .value := by rw [hpath]; rfl
  have hhandle : (s.handle r).1.status = refusal.response.status ∧ (s.handle r).2 = s := by
    simp [Store.handle, hroute, Route.answer, hmethod, haccept]
  have hstatus : refusal.response.status ≠ 204 := by cases refusal <;> decide
  exact ⟨hhandle.1 ▸ hstatus, hhandle.2⟩

/-- **A request is a write that the server takes, or it leaves the server as it is.** -/
theorem Store.handle_cases (s : Store) (r : Request) :
    (∃ v, accept r = .ok v ∧ isTaken r (s.handle r).1 = true ∧ (s.handle r).2 = s.put v) ∨
      (isTaken r (s.handle r).1 = false ∧ (s.handle r).2 = s) := by
  by_cases hput : r.method = "PUT" ∧ r.path = "/value"
  · obtain ⟨hmethod, hpath⟩ := hput
    cases haccept : accept r with
    | ok v =>
      obtain ⟨hstatus, hstore⟩ := s.handle_put hmethod hpath haccept
      exact .inl ⟨v, rfl, by simp [isTaken, asksToStore, hmethod, hpath, hstatus], hstore⟩
    | error refusal =>
      obtain ⟨hstatus, hstore⟩ := s.handle_refused hmethod hpath haccept
      exact .inr ⟨by simp [isTaken, hstatus], hstore⟩
  · exact .inr ⟨by simp [isTaken, asksToStore, hput], s.handle_of_not_put hput⟩

/-- An answer shows what is held: 200 and the value, or 404 if there is none. -/
structure Shows (value : Option Int64) (answer : Response) : Prop where
  found_iff (v : Int64) : value = some v ↔ answer.status = 200 ∧ valueBody.wholeBody answer.body = .ok v
  body_eq (v : Int64) : value = some v → answer.body = valueBody.encode v
  missing_iff : value = none ↔ answer.status = 404

/-- A request to see the value is answered with what is held. -/
theorem Store.shows_handle (s : Store) {r : Request} (h : asksToSee r = true) : Shows s.value (s.handle r).1 := by
  obtain ⟨hmethod, hpath⟩ : r.method = "GET" ∧ r.path = "/value" := by simpa [asksToSee] using h
  cases hvalue : s.value with
  | some v =>
    obtain ⟨hstatus, hbody, -⟩ := s.handle_get_some hmethod hpath hvalue
    constructor
    · intro w
      simp [hstatus, hbody, Wire.Form.wholeBody_encode field_valueBody field_valueBody]
    · intro w hw
      cases hw
      exact hbody
    · simp [hstatus]
  | none =>
    obtain ⟨hstatus, -, -⟩ := s.handle_get_none hmethod hpath hvalue
    constructor
    · intro w
      simp [hstatus]
    · intro w hw
      cases hw
    · simp [hstatus]

/-! ## Request after request -/

theorem Store.handleAll_append (s : Store) (rs rs' : List Request) :
    s.handleAll (rs ++ rs') =
      ((s.handleAll rs).1 ++ ((s.handleAll rs).2.handleAll rs').1, ((s.handleAll rs).2.handleAll rs').2) := by
  induction rs generalizing s with
  | nil => rfl
  | cons r rs ih => simp only [List.cons_append, Store.handleAll, ih]

theorem Store.handleAll_append_singleton (s : Store) (rs : List Request) (r : Request) :
    s.handleAll (rs ++ [r]) =
      ((s.handleAll rs).1 ++ [((s.handleAll rs).2.handle r).1], ((s.handleAll rs).2.handle r).2) :=
  s.handleAll_append rs [r]

theorem Store.length_handleAll (s : Store) (rs : List Request) : (s.handleAll rs).1.length = rs.length := by
  induction rs generalizing s with
  | nil => rfl
  | cons r rs ih => simp only [Store.handleAll, List.length_cons, ih]

theorem Store.getElem?_handleAll (s : Store) (before behind : List Request) (r : Request) :
    (s.handleAll (before ++ r :: behind)).1[before.length]? = some ((s.handleAll before).2.handle r).1 := by
  rw [handleAll_append, List.getElem?_append_right (by rw [length_handleAll]), length_handleAll, Nat.sub_self]
  rfl

/-- A server that was started with `dropWrite` accords with its requests and its answers: it has counted the writes
taken, and holds the value of the last of them that was not to be dropped. -/
structure Accords (dropWrite : Option UInt64) (rs : List Request) (answers : List Response) (s : Store) : Prop where
  answered : rs.length = answers.length
  dropWrite_eq : s.dropWrite = dropWrite
  writes_eq : s.writes = .ofNat (taken rs answers).length
  value_eq : ∃ values : List Int64,
    (taken rs answers).map accept = values.map .ok ∧ s.value = lastKept (DropsWord dropWrite) values

/-- The words are numbers: the counter is the number of the writes taken, and the value that of the last of them whose
place is not the number of the write to drop. -/
structure Numbered (dropWrite : Option UInt64) (rs : List Request) (answers : List Response) (s : Store) : Prop where
  writes_eq : s.writes.toNat = (taken rs answers).length
  value_eq : ∃ values : List Int64,
    (taken rs answers).map accept = values.map .ok ∧ s.value = lastKept (Drops dropWrite) values

namespace Accords

variable {dropWrite : Option UInt64} {rs : List Request} {answers : List Response} {s : Store} {r : Request}
  {answer : Response}

/-- One more write is counted, and kept unless it is the one to drop. -/
theorem put (h : Accords dropWrite rs answers s) {v : Int64} (haccept : accept r = .ok v)
    (htaken : isTaken r answer = true) : Accords dropWrite (rs ++ [r]) (answers ++ [answer]) (s.put v) := by
  obtain ⟨values, hvalues, hvalue⟩ := h.value_eq
  have hlength : .ofNat values.length = s.writes := by
    rw [h.writes_eq, ← List.length_map (f := accept), hvalues, List.length_map]
  have hgrows : taken (rs ++ [r]) (answers ++ [answer]) = taken rs answers ++ [r] := by
    rw [taken_append h.answered, taken_singleton_of_isTaken htaken]
  constructor
  · simp [h.answered]
  · rw [Store.dropWrite_put, h.dropWrite_eq]
  · rw [Store.writes_put, hgrows, List.length_append, h.writes_eq, List.length_singleton, UInt64.ofNat_add]
    rfl
  · refine ⟨values ++ [v], ?_, ?_⟩
    · rw [hgrows, List.map_append, List.map_append, hvalues, List.map_singleton, List.map_singleton, haccept]
    · rw [Store.value_put, lastKept_append_singleton, ← hlength, h.dropWrite_eq, hvalue]
      rfl

/-- Any other request leaves no trace. -/
theorem skip (h : Accords dropWrite rs answers s) (htaken : isTaken r answer = false) :
    Accords dropWrite (rs ++ [r]) (answers ++ [answer]) s := by
  have hsame : taken (rs ++ [r]) (answers ++ [answer]) = taken rs answers := by
    rw [taken_append h.answered, taken_singleton_of_not_isTaken htaken, List.append_nil]
  constructor
  · simp [h.answered]
  · exact h.dropWrite_eq
  · rw [hsame, h.writes_eq]
  · rw [hsame]
    exact h.value_eq

/-- **One more request keeps the accord.** -/
theorem handle (h : Accords dropWrite rs answers s) (r : Request) :
    Accords dropWrite (rs ++ [r]) (answers ++ [(s.handle r).1]) (s.handle r).2 := by
  rcases s.handle_cases r with ⟨v, haccept, htaken, hstore⟩ | ⟨htaken, hstore⟩
  · rw [hstore]
    exact h.put haccept htaken
  · rw [hstore]
    exact h.skip htaken

/-- **Any number of further requests keep the accord.** -/
theorem handleAll (h : Accords dropWrite rs answers s) (more : List Request) :
    Accords dropWrite (rs ++ more) (answers ++ (s.handleAll more).1) (s.handleAll more).2 := by
  -- The induction is on the requests to come; those already sent grow by one at each step.
  induction more generalizing rs answers s with
  | nil =>
    rw [List.append_nil]
    simpa [Store.handleAll] using h
  | cons r more ih =>
    have hmore := ih (h.handle r)
    rw [List.append_assoc, List.append_assoc] at hmore
    exact hmore

/-- **The words are numbers as long as fewer than `2 ^ 64` writes are taken.** -/
theorem numbered (h : Accords dropWrite rs answers s) (hfew : (taken rs answers).length < UInt64.size) :
    Numbered dropWrite rs answers s := by
  obtain ⟨values, hvalues, hvalue⟩ := h.value_eq
  have hlength : values.length = (taken rs answers).length := by
    rw [← List.length_map (f := accept), hvalues, List.length_map]
  refine ⟨?_, values, hvalues, hvalue.trans (lastKept_congr fun place hplace => ?_)⟩
  · rw [h.writes_eq]
    exact UInt64.toNat_ofNat_of_lt' hfew
  · exact dropsWord_iff_drops dropWrite (Nat.lt_trans hplace (hlength ▸ hfew))

end Accords

theorem accords_nil (dropWrite : Option UInt64) : Accords dropWrite [] [] { dropWrite } :=
  ⟨rfl, rfl, rfl, [], rfl, rfl⟩

/-- **The law of the server's state.** Whatever requests a server is sent, and whichever write it is to drop, it accords
with its history at the end; and so it does at each place before, since every beginning of the requests is such a
sequence. The counter and the number of the write to drop are words of 64 bits; for fewer than `2 ^ 64` writes they are
the numbers of the writes themselves. The request at a place leaves the server as it is unless it is a write that is
taken, and one that asks to see the value is answered with what is held at that place. -/
theorem handleAll_accords (dropWrite : Option UInt64) (rs : List Request) :
    Accords dropWrite rs (Store.handleAll { dropWrite } rs).1 (Store.handleAll { dropWrite } rs).2 ∧
      ((taken rs (Store.handleAll { dropWrite } rs).1).length < UInt64.size →
        Numbered dropWrite rs (Store.handleAll { dropWrite } rs).1 (Store.handleAll { dropWrite } rs).2) ∧
      ∀ (before behind : List Request) (r : Request), rs = before ++ r :: behind →
        ∃ answer, (Store.handleAll { dropWrite } rs).1[before.length]? = some answer ∧
          (isTaken r answer = false →
            (Store.handleAll { dropWrite } (before ++ [r])).2 = (Store.handleAll { dropWrite } before).2) ∧
          (asksToSee r = true → Shows (Store.handleAll { dropWrite } before).2.value answer) := by
  have haccords := (accords_nil dropWrite).handleAll rs
  refine ⟨haccords, haccords.numbered, ?_⟩
  rintro before behind r rfl
  refine ⟨_, Store.getElem?_handleAll _ before behind r, fun htaken => ?_, fun hsee => Store.shows_handle _ hsee⟩
  rw [Store.handleAll_append_singleton]
  rcases (Store.handleAll { dropWrite } before).2.handle_cases r with ⟨_, -, htaken', -⟩ | ⟨-, hstore⟩
  · exact absurd htaken' (by rw [htaken]; exact Bool.false_ne_true)
  · exact hstore

/-- A request to store what a body says. -/
def storing (mediaType : String) (body : List UInt8) : Request :=
  { method := "PUT", uri := "/value", headers := [("content-type", mediaType)], body }

/-- A request to see the value. -/
def seeing : Request := { method := "GET", uri := "/value" }

/-- The number five, a body that breaks off, a body that is not declared as JSON, and the number seven. -/
def mixedRequests : List Request :=
  [storing "application/json" (valueBody.encode 5), storing "application/json" [123],
    storing "text/plain" (valueBody.encode 9), storing "application/json" (valueBody.encode 7)]

/-- With the second write to drop, two of these requests are refused and do not count, so the number seven is dropped
and the number five is shown. -/
theorem handleAll_accords_second_dropped :
    (Store.handleAll { dropWrite := some 1 } mixedRequests).1.map (·.status) = [204, 400, 415, 204] ∧
      Accords (some 1) mixedRequests (Store.handleAll { dropWrite := some 1 } mixedRequests).1 ⟨some 5, 2, some 1⟩ ∧
      Numbered (some 1) mixedRequests (Store.handleAll { dropWrite := some 1 } mixedRequests).1 ⟨some 5, 2, some 1⟩ ∧
      ∃ answer, (Store.handleAll { dropWrite := some 1 } (mixedRequests ++ [seeing])).1[4]? = some answer ∧
        answer.status = 200 ∧ valueBody.wholeBody answer.body = .ok 5 := by
  have hstatus : (Store.handleAll { dropWrite := some 1 } mixedRequests).1.map (·.status) = [204, 400, 415, 204] := by
    decide +kernel
  have hstore : (Store.handleAll { dropWrite := some 1 } mixedRequests).2 = ⟨some 5, 2, some 1⟩ := by decide +kernel
  have hfew : (taken mixedRequests (Store.handleAll { dropWrite := some 1 } mixedRequests).1).length < UInt64.size := by
    decide +kernel
  obtain ⟨haccords, hnumbered, -⟩ := handleAll_accords (some 1) mixedRequests
  have hnumbered := hnumbered hfew
  obtain ⟨-, -, hplaces⟩ := handleAll_accords (some 1) (mixedRequests ++ [seeing])
  obtain ⟨answer, hanswer, -, hshows⟩ := hplaces mixedRequests [] seeing rfl
  rw [hstore] at haccords hnumbered hshows
  exact ⟨hstatus, haccords, hnumbered, answer, hanswer, ((hshows (by decide)).found_iff 5).mp rfl⟩

end Readback.Server
