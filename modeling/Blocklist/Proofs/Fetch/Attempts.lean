import Blocklist.Proofs.Fetch.Error
import Mathlib.Data.ENat.Lattice
import Mathlib.Algebra.Order.Ring.Rat
import Mathlib.Order.Interval.Set.UnorderedInterval
import Mathlib.Tactic.Ring

/-!
# How often a URL is requested

`Web.outcome url w i` is what the request of this number gets, counted from 0. An outcome that is
`Outcome.Transient` may be another one the next time, and no other outcome may: `Fetch.isFinal_iff`.
The attempts go on up to the first outcome that is final, up to the last one that there may be, or up to the
first one after which the factor of the pause is too large for a number (`Fetch.Stops`), and
`Fetch.Attempted` says which events that leaves: `Fetch.attempted`. It is by induction on the number of
pauses; one attempt and its pause take the world `w` to `Fetch.retried url warning pause w`, where the web
has one outcome less.

The main statement is `Fetch.url_attempts`: how many requests and pauses there are, how long each pause
is, and which outcome counts. With floating-point numbers there is no pause after the attempt of number 1024, and so
no number of repetitions above it is ever reached (`Fetch.url_exhausted`).
-/

namespace Blocklist

/-! ### Outcomes one after the other -/

namespace Web
variable {w : Web} {url : Text} {outcomes : Nat → Outcome} {n : Nat}

/-- The outcome of the request of this number, where nothing else is requested before it. -/
def outcome (url : Text) (w : Web) : Nat → Outcome
  | 0 => (w.get url).1
  | n + 1 => (w.get url).2.outcome url n

/-- The first requests get the outcomes of a sequence, up to the one of number `n`. -/
def Serves (url : Text) (n : Nat) (outcomes : Nat → Outcome) (w : Web) : Prop :=
  ∀ i ≤ n, w.outcome url i = outcomes i

/-- A web with one URL. -/
def ofQueue (url : Text) (queue : List Outcome) : Web where
  queues := [(url, queue)]

theorem get_ofQueue_cons (x y : Outcome) (queue : List Outcome) :
    (ofQueue url (x :: y :: queue)).get url = (x, ofQueue url (y :: queue)) := by
  simp [get, ofQueue, rest]

theorem serves_ofQueue (url : Text) (n : Nat) (outcomes : Nat → Outcome) :
    (ofQueue url ((List.range (n + 1)).map outcomes)).Serves url n outcomes := by
  induction n generalizing outcomes with
  | zero =>
    intro i hi
    obtain rfl := Nat.le_zero.1 hi
    simp [outcome, get, ofQueue]
  | succ n ih =>
    have hget : (ofQueue url ((List.range (n + 1 + 1)).map outcomes)).get url =
        (outcomes 0, ofQueue url ((List.range (n + 1)).map fun i => outcomes (i + 1))) := by
      rw [List.range_succ_eq_map, List.range_succ_eq_map]
      simp only [List.map_cons, List.map_map]
      exact get_ofQueue_cons _ _ _
    intro i hi
    cases i with
    | zero => rw [outcome, hget]
    | succ i =>
      rw [outcome, hget]
      exact ih (fun i => outcomes (i + 1)) i (Nat.le_of_succ_le_succ hi)

theorem outcome_ofQueue_singleton (x : Outcome) (i : Nat) : (ofQueue url [x]).outcome url i = x := by
  have hget : (ofQueue url [x]).get url = (x, ofQueue url [x]) := by simp [get, ofQueue, rest]
  induction i with
  | zero => rw [outcome, hget]
  | succ i ih => rw [outcome, hget, ih]

end Web

/-! ### Outcomes by themselves -/

namespace Outcome

/-- An outcome that may be another one when the request is repeated: there were too many requests, the
server is at fault, or there is no reply. -/
inductive Transient : Outcome → Prop
  | tooMany (body : Text) : Transient (.reply 429 body)
  | server {code : Int} (body : Text) (h : 500 ≤ code) (h' : code < 600) : Transient (.reply code body)
  | timeout : Transient .timeout
  | broken (fault : ConnectionFault) : Transient (.broken fault)

/-- An outcome with a text: the status is one of success, and the text is not blank where it must not
be. -/
inductive Delivers (allowEmpty : Bool) (s : Text) : Outcome → Prop
  | reply {code : Int} (h : 200 ≤ code) (h' : code < 300) (hs : allowEmpty = true ∨ s.isBlankText = false) :
    Delivers allowEmpty s (.reply code s)

theorem transient_reply_iff {code : Int} {body : Text} :
    Transient (.reply code body) ↔ FetchError.isTransientStatus code = true := by
  rw [FetchError.isTransientStatus]
  constructor
  · rintro (_ | ⟨-, h, h'⟩)
    · rfl
    · simp [h, h']
  · intro h
    rcases Bool.or_eq_true_iff.1 h with h | h
    · obtain rfl : code = 429 := of_decide_eq_true h
      exact .tooMany body
    · have h' := Bool.and_eq_true_iff.1 h
      exact .server body (of_decide_eq_true h'.1) (of_decide_eq_true h'.2)

end Outcome

namespace Fetch
variable {o : FetchOptions} {url : Text} {allowEmpty : Bool} {w : World} {x : Outcome} {e : FetchError}
  {s : Text} {left attempt m n : Nat} {outcomes : Nat → Outcome} {result : Except FetchError Text}

/-- No attempt follows one with this outcome: it gives a text, or an error that stays. -/
def IsFinal (o : FetchOptions) (url : Text) (allowEmpty : Bool) (x : Outcome) : Prop :=
  ∀ e, textOf o url allowEmpty x = .error e → e.isTransient = false

theorem textOf_eq_ok_iff : textOf o url allowEmpty x = .ok s ↔ x.Delivers allowEmpty s := by
  constructor
  · intro h
    cases x with
    | reply code body =>
      rw [textOf] at h
      split at h
      · cases h
      · rename_i hcode
        split at h
        · cases h
        · rename_i hbody
          obtain rfl := Except.ok.inj h
          refine .reply (by grind) (by grind) ?_
          cases allowEmpty <;> simp_all
    | _ => cases h
  · rintro ⟨h, h', hs⟩
    rw [textOf, if_neg (by grind), if_neg (by grind)]

theorem isFinal_iff_of_error (h : textOf o url allowEmpty x = .error e) :
    IsFinal o url allowEmpty x ↔ e.isTransient = false :=
  ⟨fun hx => hx e h, fun he e' h' => by obtain rfl := Except.error.inj (h.symm.trans h'); exact he⟩

theorem textOf_of_isTransientStatus {code : Int} {body : Text} (h : FetchError.isTransientStatus code = true) :
    textOf o url allowEmpty (.reply code body) = .error (.status url code) := by
  have hcode : code < 200 ∨ 300 ≤ code := by
    rw [FetchError.isTransientStatus] at h
    grind
  rw [textOf, if_pos (by simpa using hcode)]

theorem isTransient_of_textOf_reply {code : Int} {body : Text}
    (h : textOf o url allowEmpty (.reply code body) = .error e) :
    e.isTransient = FetchError.isTransientStatus code := by
  rw [textOf] at h
  split at h
  · obtain rfl := Except.error.inj h; rfl
  · split at h
    · obtain rfl := Except.error.inj h
      rw [FetchError.isTransientStatus]
      grind [FetchError.isTransient]
    · cases h

/-- Which outcomes are worth another attempt does not depend on the options. -/
theorem isFinal_iff : IsFinal o url allowEmpty x ↔ ¬ x.Transient := by
  cases x with
  | reply code body =>
    rw [Outcome.transient_reply_iff]
    constructor
    · intro h hcode
      exact Bool.false_ne_true ((h _ (textOf_of_isTransientStatus hcode)).symm.trans hcode)
    · intro h e he
      rw [isTransient_of_textOf_reply he]
      exact Bool.eq_false_iff.2 h
  | timeout => exact (isFinal_iff_of_error rfl).trans (iff_of_false nofun (not_not.2 .timeout))
  | broken fault => exact (isFinal_iff_of_error rfl).trans (iff_of_false nofun (not_not.2 (.broken fault)))
  | redirects => exact (isFinal_iff_of_error rfl).trans (iff_of_true rfl nofun)
  | untrusted reason => exact (isFinal_iff_of_error rfl).trans (iff_of_true rfl nofun)

/-! ### One attempt -/

theorem request_eq :
    request o url allowEmpty w =
      (textOf o url allowEmpty (w.web.outcome url 0),
        { w with web := (w.web.get url).2 }.record (.request url)) :=
  rfl

theorem pauses_request (o : FetchOptions) (url : Text) (allowEmpty : Bool) (w : World) :
    (request o url allowEmpty w).2.pauses = w.pauses := by
  simp [request_eq, World.pauses, World.record]

/-- What an attempt leaves behind that another follows. -/
def retryEvents (url warning : Text) (pause : Amount) : List Event :=
  [.request url, .note .warning warning, .pause pause]

/-- The world after an attempt that failed, and the pause after it. -/
def retried (url warning : Text) (pause : Amount) (w : World) : World :=
  { w with
    web := (w.web.get url).2
    events := w.events ++ retryEvents url warning pause }

theorem pauses_retried (url warning : Text) (pause : Amount) (w : World) :
    (retried url warning pause w).pauses = w.pauses ++ [pause] := by
  simp [retried, retryEvents, World.pauses]

/-- How the attempts end with an outcome that no pause follows, where `left` more attempts might come after the one
of number `attempt`: none of them is left or the outcome is final, or the factor of the pause is too large. -/
inductive Stops (o : FetchOptions) (url : Text) (allowEmpty : Bool) (left attempt : Nat) (x : Outcome) :
    Except FetchError Text → Prop
  | final (h : left = 0 ∨ IsFinal o url allowEmpty x) :
    Stops o url allowEmpty left attempt x (textOf o url allowEmpty x)
  | exhausted (hleft : left ≠ 0) (hx : ¬ IsFinal o url allowEmpty x) (h : o.factor? attempt = none) :
    Stops o url allowEmpty left attempt x (.error (.exhausted url))

theorem exists_of_not_isFinal (h : ¬ IsFinal o url allowEmpty x) :
    ∃ e, textOf o url allowEmpty x = .error e ∧ e.isTransient = true := by
  simpa [IsFinal] using h

theorem attempts_of_stops (h : Stops o url allowEmpty left attempt (w.web.outcome url 0) result) :
    attempts o url allowEmpty left attempt w = (result, (request o url allowEmpty w).2) := by
  cases left with
  | zero =>
    cases h with
    | final => rfl
    | exhausted hleft => exact absurd rfl hleft
  | succ left =>
    rw [attempts, request_eq]
    cases h with
    | final h =>
      have hfinal := h.resolve_left (Nat.succ_ne_zero left)
      cases htext : textOf o url allowEmpty (w.web.outcome url 0) with
      | ok s => rfl
      | error e =>
        dsimp only
        rw [if_neg (by rw [hfinal e htext]; exact Bool.false_ne_true)]
    | exhausted _ hx h =>
      obtain ⟨e, htext, he⟩ := exists_of_not_isFinal hx
      rw [htext]
      dsimp only
      rw [if_pos he, FetchOptions.pause?, h]
      rfl

theorem attempts_succ {pause : Amount} (h : textOf o url allowEmpty (w.web.outcome url 0) = .error e)
    (he : e.isTransient = true) (hpause : o.pause? (w.shares w.pauses.length) attempt = some pause) :
    attempts o url allowEmpty (left + 1) attempt w =
      attempts o url allowEmpty left (attempt + 1) (retried url (retryWarning o url pause attempt e) pause w) := by
  have hpauses := pauses_request o url allowEmpty w
  rw [request_eq] at hpauses
  rw [attempts, request_eq, h]
  dsimp only at hpauses ⊢
  -- a request leaves the shares as they are
  have hshares : o.pause? (({ w with web := (w.web.get url).2 }.record (.request url)).shares w.pauses.length) attempt =
      some pause := hpause
  rw [if_pos he, hpauses, hshares]
  simp [retried, retryEvents, World.record, World.warn]

/-! ### A run -/

/-- What came of a run of attempts on `w` with `m` pauses, the first of them after the attempt of number
`attempt`: it ends with a request, and each request before it is followed by a warning and a pause. -/
structure Attempted (o : FetchOptions) (url : Text) (attempt m : Nat) (w w' : World) : Prop where
  events : ∃ (warnings : Nat → Text) (pauses : Nat → Amount),
    (∀ i < m, o.pause? (w.shares (w.pauses.length + i)) (attempt + i) = some (pauses i)) ∧
      w'.events =
        w.events ++ (List.range m).flatMap (fun i => retryEvents url (warnings i) (pauses i)) ++ [.request url]

theorem attempted_request (allowEmpty : Bool) :
    Attempted o url attempt 0 w (request o url allowEmpty w).2 where
  events := ⟨fun _ => [], fun _ => .nan, nofun, by simp [request_eq, World.record]⟩

namespace Attempted
variable {w' : World}

theorem of_retried {warning : Text} {pause : Amount}
    (hpause : o.pause? (w.shares w.pauses.length) attempt = some pause)
    (h : Attempted o url (attempt + 1) m (retried url warning pause w) w') :
    Attempted o url attempt (m + 1) w w' where
  events := by
    obtain ⟨warnings, pauses, hpauses, hevents⟩ := h.events
    refine ⟨fun | 0 => warning | i + 1 => warnings i, fun | 0 => pause | i + 1 => pauses i, fun i hi => ?_, ?_⟩
    · cases i with
      | zero => exact hpause
      | succ i =>
        have hlater := hpauses i (Nat.lt_of_succ_lt_succ hi)
        rw [pauses_retried, List.length_append, List.length_singleton, Nat.add_right_comm, Nat.add_assoc,
          Nat.add_right_comm attempt, Nat.add_assoc attempt] at hlater
        exact hlater
    · rw [hevents, List.range_succ_eq_map, List.flatMap_cons, List.flatMap_map]
      simp [retried]

theorem requests (h : Attempted o url attempt m w w') : w'.requests = w.requests ++ List.replicate (m + 1) url := by
  obtain ⟨warnings, pauses, -, hevents⟩ := h.events
  rw [World.requests, hevents]
  simp [World.requests, retryEvents, List.filterMap_flatMap, ← List.map_eq_flatMap, List.replicate_succ']

theorem exists_pauses (h : Attempted o url attempt m w w') :
    ∃ pauses : List Amount, w'.pauses = w.pauses ++ pauses ∧ pauses.length = m ∧
      ∀ (i : Nat) (hi : i < pauses.length),
        o.pause? (w.shares (w.pauses.length + i)) (attempt + i) = some pauses[i] := by
  obtain ⟨warnings, pauses, hpauses, hevents⟩ := h.events
  refine ⟨(List.range m).map pauses, ?_, by simp, fun i hi => ?_⟩
  · rw [World.pauses, hevents]
    simp [World.pauses, retryEvents, List.filterMap_flatMap, ← List.map_eq_flatMap]
  · rw [List.getElem_map, List.getElem_range]
    exact hpauses i (by simpa using hi)

end Attempted

/-- The attempts go on to the first one that no pause follows. -/
theorem attempted
    (hbefore : ∀ i < m, ¬ IsFinal o url allowEmpty (w.web.outcome url i) ∧ o.factor? (attempt + i) ≠ none)
    (hlast : Stops o url allowEmpty left (attempt + m) (w.web.outcome url m) result) :
    (attempts o url allowEmpty (m + left) attempt w).1 = result ∧
      Attempted o url attempt m w (attempts o url allowEmpty (m + left) attempt w).2 := by
  induction m generalizing attempt w with
  | zero =>
    rw [Nat.add_zero] at hlast
    rw [Nat.zero_add, attempts_of_stops hlast]
    exact ⟨rfl, attempted_request allowEmpty⟩
  | succ m ih =>
    obtain ⟨hfinal, hfactor⟩ := hbefore 0 (Nat.succ_pos m)
    obtain ⟨e, h, he⟩ := exists_of_not_isFinal hfinal
    obtain ⟨pause, hpause⟩ : ∃ pause, o.pause? (w.shares w.pauses.length) attempt = some pause := by
      obtain ⟨factor, hfactor⟩ := Option.ne_none_iff_exists'.1 hfactor
      exact ⟨_, congrArg (Option.map _) hfactor⟩
    have hshift : ∀ i, attempt + (i + 1) = attempt + 1 + i := fun i => by omega
    have hlater : ∀ i < m, ¬ IsFinal o url allowEmpty (w.web.outcome url (i + 1)) ∧
        o.factor? (attempt + 1 + i) ≠ none := fun i hi => hshift i ▸ hbefore (i + 1) (Nat.succ_lt_succ hi)
    rw [hshift] at hlast
    rw [Nat.add_right_comm, attempts_succ h he hpause]
    obtain ⟨hresult, hrun⟩ := ih (w := retried url (retryWarning o url pause attempt e) pause w) hlater hlast
    exact ⟨hresult, hrun.of_retried hpause⟩

/-! ### The number of pauses -/

/-- The number of the first outcome that is final; `⊤` if none is. -/
noncomputable def firstFinal (o : FetchOptions) (url : Text) (allowEmpty : Bool) (outcomes : Nat → Outcome) : ℕ∞ :=
  ⨅ i ∈ {i | IsFinal o url allowEmpty (outcomes i)}, (i : ℕ∞)

/-- The number of the first attempt after which the factor of the pause is too large for a number; `⊤` if there is
no such attempt. -/
noncomputable def firstHuge (o : FetchOptions) : ℕ∞ := ⨅ i ∈ {i | o.factor? i = none}, (i : ℕ∞)

theorem le_first_iff {p : Nat → Prop} : (m : ℕ∞) ≤ ⨅ i ∈ {i | p i}, (i : ℕ∞) ↔ ∀ i < m, ¬ p i := by
  rw [le_iInf₂_iff]
  constructor
  · intro h i hi hp
    exact absurd (Nat.cast_le.1 (h i hp)) (Nat.not_le.2 hi)
  · intro h i hp
    exact Nat.cast_le.2 (Nat.not_lt.1 fun hi => h i hi hp)

theorem firstFinal_le (h : IsFinal o url allowEmpty (outcomes m)) : firstFinal o url allowEmpty outcomes ≤ m :=
  iInf₂_le m h

theorem firstHuge_le (h : o.factor? m = none) : firstHuge o ≤ m := iInf₂_le m h

/-- The greatest power of two that is a floating-point number is that of 1023. -/
theorem firstHuge_of_double (h : o.rounding = Binary64.round) : firstHuge o = (1024 : Nat) := by
  refine le_antisymm (firstHuge_le (FetchOptions.factor?_of_double h 1024)) (le_first_iff.2 fun i hi => ?_)
  rw [FetchOptions.factor?_of_double h, if_pos hi]
  exact Option.some_ne_none _

theorem firstHuge_of_exact (h : o.rounding = .finite) : firstHuge o = ⊤ := by
  refine iInf₂_eq_top.2 fun i hi => ?_
  cases (FetchOptions.factor?_of_exact h i).symm.trans hi

/-- Where no more than `n` pauses are allowed, `m` is their number; what comes of it depends on whether the factor
of one more pause was asked for. -/
theorem exists_stops (o : FetchOptions) (url : Text) (allowEmpty : Bool) (outcomes : Nat → Outcome) (n : Nat) :
    ∃ (m left : Nat) (result : Except FetchError Text), m + left = n ∧
      (m : ℕ∞) = min (min (firstFinal o url allowEmpty outcomes) n) (firstHuge o) ∧
      (firstHuge o < min (firstFinal o url allowEmpty outcomes) n → result = .error (.exhausted url)) ∧
      (min (firstFinal o url allowEmpty outcomes) n ≤ firstHuge o → result = textOf o url allowEmpty (outcomes m)) ∧
      (∀ i < m, ¬ IsFinal o url allowEmpty (outcomes i) ∧ o.factor? i ≠ none) ∧
      Stops o url allowEmpty left m (outcomes m) result := by
  classical
  have hex : ∃ m, (m = n ∨ IsFinal o url allowEmpty (outcomes m)) ∨ o.factor? m = none := ⟨n, .inl (.inl rfl)⟩
  obtain ⟨m, hspec, hmin⟩ : ∃ m, ((m = n ∨ IsFinal o url allowEmpty (outcomes m)) ∨ o.factor? m = none) ∧
      ∀ i < m, ¬ ((i = n ∨ IsFinal o url allowEmpty (outcomes i)) ∨ o.factor? i = none) :=
    ⟨Nat.find hex, Nat.find_spec hex, fun i hi => Nat.find_min hex hi⟩
  have hle : m ≤ n := Nat.not_lt.1 fun hlt => hmin n hlt (.inl (.inl rfl))
  have hbefore : ∀ i < m, ¬ IsFinal o url allowEmpty (outcomes i) ∧ o.factor? i ≠ none := fun i hi =>
    ⟨fun hfinal => hmin i hi (.inl (.inr hfinal)), fun hfactor => hmin i hi (.inr hfactor)⟩
  have hmfinal : (m : ℕ∞) ≤ min (firstFinal o url allowEmpty outcomes) n :=
    le_min (le_first_iff.2 fun i hi => (hbefore i hi).1) (Nat.cast_le.2 hle)
  have hmhuge : (m : ℕ∞) ≤ firstHuge o := le_first_iff.2 fun i hi => (hbefore i hi).2
  obtain ⟨left, rfl⟩ := Nat.exists_eq_add_of_le hle
  by_cases hlast : m = m + left ∨ IsFinal o url allowEmpty (outcomes m)
  · have hfirst : min (firstFinal o url allowEmpty outcomes) (m + left : Nat) ≤ m := by
      rcases hlast with h | hfinal
      · exact (min_le_right _ _).trans (Nat.cast_le.2 h.ge)
      · exact (min_le_left _ _).trans (firstFinal_le hfinal)
    refine ⟨m, left, _, rfl, le_antisymm (le_min hmfinal hmhuge) ((min_le_left _ _).trans hfirst), fun h => ?_,
      fun _ => rfl, hbefore, .final (hlast.imp_left (by omega))⟩
    exact absurd h (not_lt.2 (hfirst.trans hmhuge))
  · have hfactor := hspec.resolve_left hlast
    rw [not_or] at hlast
    refine ⟨m, left, _, rfl, le_antisymm (le_min hmfinal hmhuge) ((min_le_right _ _).trans (firstHuge_le hfactor)),
      fun _ => rfl, fun h => ?_, hbefore, .exhausted (fun h => hlast.1 (by omega)) hlast.2 hfactor⟩
    -- the outcome is not final and more attempts are left, so the first of those numbers comes later
    have hlater : ((m + 1 : Nat) : ℕ∞) ≤ min (firstFinal o url allowEmpty outcomes) (m + left : Nat) := by
      refine le_min (le_first_iff.2 fun i hi hfinal => ?_) (Nat.cast_le.2 (by omega))
      rcases Nat.lt_succ_iff_lt_or_eq.1 hi with hi | rfl
      · exact (hbefore i hi).1 hfinal
      · exact hlast.2 hfinal
    exact absurd (Nat.cast_le.1 (hlater.trans (h.trans (firstHuge_le hfactor)))) (Nat.not_succ_le_self m)

/-! ### The length of a pause -/

/-- With exact arithmetic, a pause is twice as long as the one before, and longer by a share of its
jitter. -/
theorem pause?_of_exact {delay jitter : Rat} (h : o.rounding = .finite) (hdelay : o.retryDelay = .finite delay)
    (hjitter : o.retryJitter = .finite jitter) (share : Rat) (i : Nat) :
    o.pause? share i = some (.finite (delay * 2 ^ i + share * jitter * (delay * 2 ^ i))) := by
  rw [FetchOptions.pause?, FetchOptions.factor?_of_exact h]
  simp only [Option.map_some, FetchOptions.pauseOf, h, hdelay, hjitter, Amount.mul, Amount.add]
  refine congrArg (fun x => some (Amount.finite x)) ?_
  ring

theorem mul_mem_uIcc {share jitter : Rat} (h : share ∈ Set.Icc 0 1) : share * jitter ∈ Set.uIcc 0 jitter := by
  rw [Set.mem_uIcc]
  rcases le_total 0 jitter with hj | hj
  · exact .inl ⟨mul_nonneg h.1 hj, mul_le_of_le_one_left hj h.2⟩
  · exact .inr ⟨by simpa using mul_le_mul_of_nonpos_right h.2 hj, mul_nonpos_of_nonneg_of_nonpos h.1 hj⟩

/-! ### The whole run -/

/-- A URL is requested up to the first outcome that gives a text or an error that stays, and at most
`o.retries` times after the first time; what counts is the last outcome. There is one pause less than there
are requests. In exact arithmetic the pauses double, and each is longer by a share of itself between 0 and
the jitter. Statuses 429 and from 500 to 599, timeouts and broken connections are worth another attempt,
and no other outcome is. But after the first attempt where the factor of the pause is too large for a number, which
with floating-point numbers is the one of number 1024, nothing is requested any more, and what counts is an error that
has nothing to do with the outcomes. -/
theorem url_attempts (o : FetchOptions) (url : Text) (allowEmpty : Bool) (outcomes : Nat → Outcome) :
    (∃ web : Web, web.Serves url (max 0 o.retries).toNat outcomes) ∧
      (∀ x s, textOf o url allowEmpty x = .ok s ↔ x.Delivers allowEmpty s) ∧
      (∀ x, IsFinal o url allowEmpty x ↔ ¬ x.Transient) ∧
      (o.rounding = Binary64.round → firstHuge o = (1024 : Nat)) ∧
      (o.rounding = .finite → firstHuge o = ⊤) ∧
      ∀ w : World, w.web.Serves url (max 0 o.retries).toNat outcomes →
        ∃ (m : Nat) (pauses : List Amount),
          let last := min (firstFinal o url allowEmpty outcomes) (max 0 o.retries).toNat
          (m : ℕ∞) = min last (firstHuge o) ∧
            (last ≤ firstHuge o → (Fetch.url o url allowEmpty w).1 = textOf o url allowEmpty (outcomes m)) ∧
            (firstHuge o < last → (Fetch.url o url allowEmpty w).1 = .error (.exhausted url)) ∧
            (Fetch.url o url allowEmpty w).2.requests = w.requests ++ List.replicate (m + 1) url ∧
            (Fetch.url o url allowEmpty w).2.pauses = w.pauses ++ pauses ∧
            pauses.length = m ∧
            ∀ delay jitter : Rat, o.rounding = .finite → o.retryDelay = .finite delay →
              o.retryJitter = .finite jitter → (∀ n, w.shares n ∈ Set.Icc 0 1) →
              ∀ (i : Nat) (hi : i < pauses.length), ∃ t ∈ Set.uIcc 0 jitter,
                pauses[i] = .finite (delay * 2 ^ i + t * (delay * 2 ^ i)) := by
  have hretries : (max 0 o.retries).toNat = o.retries.toNat := by omega
  rw [hretries]
  refine ⟨⟨_, Web.serves_ofQueue url _ outcomes⟩, fun x s => textOf_eq_ok_iff, fun x => isFinal_iff,
    firstHuge_of_double, firstHuge_of_exact, ?_⟩
  intro w hw
  obtain ⟨m, left, result, hn, hm, hexhausted, hresult, hbefore, hstops⟩ :=
    exists_stops o url allowEmpty outcomes o.retries.toNat
  have hrun : (Fetch.url o url allowEmpty w).1 = result ∧
      Attempted o url 0 m w (Fetch.url o url allowEmpty w).2 := by
    rw [Fetch.url, ← hn]
    refine attempted (fun i hi => ?_) ?_
    · rw [hw i (by omega), Nat.zero_add]
      exact hbefore i hi
    · rwa [hw m (by omega), Nat.zero_add]
  obtain ⟨pauses, hpauses, hlength, hpause⟩ := hrun.2.exists_pauses
  refine ⟨m, pauses, hm, fun h => hrun.1.trans (hresult h), fun h => hrun.1.trans (hexhausted h), hrun.2.requests,
    hpauses, hlength, ?_⟩
  intro delay jitter hexact hdelay hjitter hshares i hi
  refine ⟨_, mul_mem_uIcc (hshares (w.pauses.length + i)), ?_⟩
  have h := hpause i hi
  rw [Nat.zero_add, pause?_of_exact hexact hdelay hjitter] at h
  exact (Option.some.inj h).symm

/-- A server that is at fault, then a timeout, then a text: the third outcome counts. -/
theorem url_attempts_third :
    let o : FetchOptions := { retryJitter := .finite (1 / 4), rounding := .finite }
    let location : Text := "https://a.com/"
    let outcomes : Nat → Outcome := fun i =>
      if i = 0 then .reply 503 [] else if i = 1 then .timeout else .reply 200 "||a.com^"
    let w : World :=
      { web := .ofQueue location ((List.range 4).map outcomes)
        share := 1 / 2
        now := ⟨2024, 1, 2, 3, 4, 5, 0, 0⟩ }
    w.web.Serves location (max 0 o.retries).toNat outcomes ∧
      o.rounding = .finite ∧ firstHuge o = ⊤ ∧ (∀ n, w.shares n ∈ Set.Icc 0 1) ∧
      (Fetch.url o location false w).1 = .ok "||a.com^" ∧
      (Fetch.url o location false w).2.requests = [location, location, location] ∧
      ∃ pauses : List Amount, (Fetch.url o location false w).2.pauses = pauses ∧ pauses.length = 2 ∧
        ∀ (i : Nat) (hi : i < pauses.length), ∃ t ∈ Set.uIcc 0 (1 / 4 : Rat),
          pauses[i] = .finite (1 * 2 ^ i + t * (1 * 2 ^ i)) := by
  intro o location outcomes w
  have hserves : w.web.Serves location (max 0 o.retries).toNat outcomes := Web.serves_ofQueue location 3 outcomes
  have hshares : ∀ n, w.shares n ∈ Set.Icc 0 1 := fun n => by
    show (1 / 2 : Rat) ∈ Set.Icc 0 1
    constructor <;> decide +kernel
  have hfirst : firstFinal o location false outcomes = (2 : Nat) := by
    refine le_antisymm (firstFinal_le (isFinal_iff.2 nofun)) (le_first_iff.2 fun i hi => ?_)
    rw [isFinal_iff, not_not]
    match i, hi with
    | 0, _ => exact .server [] (by decide) (by decide)
    | 1, _ => exact .timeout
  obtain ⟨-, -, -, -, hhuge, hurl⟩ := url_attempts o location false outcomes
  have hhuge := hhuge rfl
  obtain ⟨m, pauses, hm, hresult, -, hrequests, hpauses, hlength, hpause⟩ := hurl w hserves
  obtain rfl : m = 2 := by
    rw [hfirst, hhuge, min_eq_left le_top,
      min_eq_left (Nat.cast_le.2 (by decide : 2 ≤ (max 0 o.retries).toNat))] at hm
    exact Nat.cast_injective hm
  refine ⟨hserves, rfl, hhuge, hshares, ?_, hrequests, pauses, hpauses, hlength, hpause 1 (1 / 4) rfl rfl rfl hshares⟩
  rw [hresult (hhuge ▸ le_top)]
  exact textOf_eq_ok_iff.2 (.reply (by decide) (by decide) (.inr (by decide)))

/-- A server that is always at fault gets 1025 requests where 2001 are asked for, and the error is not that of the
last outcome. -/
theorem url_exhausted :
    let o : FetchOptions := { retries := 2000, retryDelay := .finite 0 }
    let location : Text := "https://x.org/l.txt"
    let outcomes : Nat → Outcome := fun _ => .reply 503 []
    let w : World := { web := .ofQueue location [.reply 503 []], now := ⟨2024, 1, 2, 3, 4, 5, 0, 0⟩ }
    w.web.Serves location (max 0 o.retries).toNat outcomes ∧
      firstFinal o location false outcomes = ⊤ ∧
      (Fetch.url o location false w).1 = .error (.exhausted location) ∧
      (Fetch.url o location false w).1 ≠ textOf o location false (outcomes 2000) ∧
      (Fetch.url o location false w).2.requests = List.replicate 1025 location := by
  intro o location outcomes w
  have houtcome : ∀ i, w.web.outcome location i = .reply 503 [] := Web.outcome_ofQueue_singleton _
  have htransient : ¬ IsFinal o location false (.reply 503 []) := by
    rw [isFinal_iff, not_not]
    exact .server [] (by decide) (by decide)
  have hfactor := FetchOptions.factor?_of_double (o := o) rfl
  obtain ⟨hresult, hrun⟩ : (Fetch.url o location false w).1 = .error (.exhausted location) ∧
      Attempted o location 0 1024 w (Fetch.url o location false w).2 := by
    have hlast : Stops o location false 976 (0 + 1024) (w.web.outcome location 1024)
        (.error (.exhausted location)) := by
      rw [houtcome, Nat.zero_add]
      exact .exhausted (by decide) htransient (hfactor 1024)
    have hretries : o.retries.toNat = 1024 + 976 := rfl
    rw [Fetch.url, hretries]
    refine attempted (fun i hi => ?_) hlast
    rw [houtcome, Nat.zero_add, hfactor, if_pos hi]
    exact ⟨htransient, Option.some_ne_none _⟩
  refine ⟨fun i _ => houtcome i, iInf₂_eq_top.2 fun i hi => absurd hi htransient, hresult, ?_, hrun.requests⟩
  rw [hresult]
  exact fun h => by cases h

end Fetch
end Blocklist
