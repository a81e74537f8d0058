import Mathlib.Tactic
import MediaOverQuic.Proofs.Control.Boundaries

/-!
# Calls on a stream that arrives

Bytes arrive in chunks while calls scan them, one call after another, and the stream may end behind
the last of them. A call looks at no more than has arrived, so it may have to wait; but what it
returns, and what it leaves to the next one, is what the same scan makes of all the bytes at once.
-/
namespace MediaOverQuic

namespace Decoder

variable {d : Decoder α} {bytes : Bytes} {n : Nat}

/-- What `n` reads from a byte string come to, each from where the one before it ended, and what
they leave. -/
def inTurn (d : Decoder α) (bytes : Bytes) : Nat → List (Except Error α) × Bytes
  | 0 => ([], bytes)
  | n + 1 =>
    let before := inTurn d bytes n
    let last := d before.2
    (before.1 ++ [last.1], last.2)

theorem inTurn_succ : d.inTurn bytes (n + 1) =
    ((d.inTurn bytes n).1 ++ [(d (d.inTurn bytes n).2).1], (d (d.inTurn bytes n).2).2) := rfl

theorem inTurn_succ_eq_cons : d.inTurn bytes (n + 1) =
    ((d bytes).1 :: (d.inTurn (d bytes).2 n).1, (d.inTurn (d bytes).2 n).2) := by
  induction n with
  | zero => rfl
  | succ n ih => rw [inTurn_succ, ih, inTurn_succ, List.cons_append]

/-- Fewer reads come to the first results of more of them. -/
theorem inTurn_prefix {m : Nat} (h : n ≤ m) : (d.inTurn bytes n).1 <+: (d.inTurn bytes m).1 := by
  induction h with
  | refl => exact List.prefix_rfl
  | step _ ih => exact ih.trans (List.prefix_append _ _)

end Decoder

namespace Scan

variable {s : Scan α} {bytes rest : Bytes} {count : Nat} {cause : StreamError}

/-- Reads what a scan makes of a stream that has ended. -/
def toDecoder (s : Scan α) : Decoder α := s.ofEnded

theorem toDecoder_eq_ok_iff {v : α} :
    s.toDecoder bytes = (.ok v, rest) ↔ s bytes = .ready (v, rest) := by
  cases h : s bytes with
  | ready found => simp [toDecoder, ofEnded, h, Prod.ext_iff]
  | more count cause => simp [toDecoder, ofEnded, h]

theorem toDecoder_of_more (h : s bytes = .more count cause) :
    s.toDecoder bytes = (.error (.transport cause), []) := by
  simp only [toDecoder, ofEnded, h]

theorem repeatOnEnded_eq (n : Nat) (bytes : Bytes) :
    s.repeatOnEnded n bytes = (s.toDecoder.inTurn bytes n).1 := by
  induction n generalizing bytes with
  | zero => rfl
  | succ n ih =>
    rw [Decoder.inTurn_succ_eq_cons, ← ih]
    rfl

end Scan

/-- Calls that scan a stream one after another, while it arrives. -/
structure Scanning (α : Type) where
  /-- What the present call has got, if there is one. -/
  got : Option Bytes
  /-- What has arrived and was not read yet. -/
  arrived : Bytes
  /-- What has not arrived yet. -/
  coming : Bytes
  /-- Whether the end of the stream has been reached behind what has arrived. -/
  ended : Bool
  /-- What the calls so far have returned. -/
  results : List (Except Error α)

namespace Scanning

/-- No call has begun, and nothing of the stream has arrived. -/
def fresh (stream : Bytes) : Scanning α := ⟨none, [], stream, false, []⟩

/-- What no call before the present one has used up. -/
def left (a : Scanning α) : Bytes := a.got.getD [] ++ a.arrived ++ a.coming

/-- What is next for a call that has got `got` and is handed at most `most + 1` bytes at a time. -/
def pull (s : Scan α) (a : Scanning α) (got : Bytes) (most : Nat) :
    Attempt (Bytes × Bytes) (Except StreamError α × Bytes) :=
  s.pull got a.arrived ((Inlet.inPieces a.ended most).read a.arrived)

/-- A chunk arrives, or the stream ends if it `ends` at all, or a call begins, goes on or
returns. -/
inductive Step (s : Scan α) (ends : Bool) : Scanning α → Scanning α → Prop
  | arrives {a : Scanning α} (chunk coming : Bytes) (h : a.coming = chunk ++ coming)
      (hne : chunk ≠ []) :
      Step s ends a { a with arrived := a.arrived ++ chunk, coming := coming }
  | closes {a : Scanning α} (h : a.coming = []) (hends : ends = true) (hopen : a.ended = false) :
      Step s ends a { a with ended := true }
  | begins {a : Scanning α} (h : a.got = none) : Step s ends a { a with got := some [] }
  | goesOn {a : Scanning α} {got got' arrived : Bytes} (most : Nat) (h : a.got = some got)
      (hrun : a.pull s got most = .goesOn (got', arrived)) :
      Step s ends a { a with got := some got', arrived := arrived }
  | returns {a : Scanning α} {got arrived : Bytes} {result : Except StreamError α} (most : Nat)
      (h : a.got = some got) (hrun : a.pull s got most = .ends (result, arrived)) :
      Step s ends a
        { a with
          got := none
          arrived := arrived
          results := a.results ++ [result.mapError .transport] }

/-- Whether there is a call that can not go on before something arrives or the stream ends. -/
def Waits (s : Scan α) (a : Scanning α) : Prop :=
  ∃ got, a.got = some got ∧ ∀ most, a.pull s got most = .waits

/-- Whether one more call has returned by `a'`, with `result`, and has left `rest`. -/
structure Returned (a : Scanning α) (result : Except Error α) (rest : Bytes) (a' : Scanning α) :
    Prop where
  got_eq : a'.got = none
  results_eq : a'.results = a.results ++ [result]
  left_eq : a'.left = rest

variable {s : Scan α} {ends : Bool} {stream got : Bytes} {a a' : Scanning α} {count : Nat}
  {cause : StreamError}

theorem left_eq (h : a.got = some got) : a.left = got ++ (a.arrived ++ a.coming) := by
  simp [left, h]

/-- How the calls so far hang together with the stream. -/
structure Sound (s : Scan α) (ends : Bool) (stream : Bytes) (a : Scanning α) : Prop where
  /-- Nothing comes behind the end. -/
  closed : a.ended = true → ends = true ∧ a.coming = []
  tight : ∀ got, a.got = some got → s.Tight got
  /-- What the calls have returned, and what they have left, does not depend on how it arrived. -/
  reads : s.toDecoder.inTurn stream a.results.length = (a.results, a.left)
  /-- No call fails before all is used up and the stream has ended. -/
  failed : ∀ e, .error e ∈ a.results → a.ended = true ∧ a.left = [] ∧ ∃ cause, e = .transport cause

theorem sound_fresh : Sound s ends stream (fresh stream) where
  closed := nofun
  tight := nofun
  reads := rfl
  failed := nofun

/-- How much may happen before a call returns: bytes arrive and are read, the stream ends, and the
call begins. -/
def rank (a : Scanning α) : Nat :=
  2 * a.coming.length + a.arrived.length + (if a.ended then 0 else 1) +
    if a.got = none then 1 else 0

/-- What one call returns is what the scan makes of all that was left to it. -/
theorem Sound.returned (hs : s.Lawful) (h : Sound s ends stream a) {arrived : Bytes}
    {result : Except StreamError α} {most : Nat} (hgot : a.got = some got)
    (hrun : a.pull s got most = .ends (result, arrived)) :
    arrived = a.arrived ∧
      s.toDecoder a.left = (result.mapError .transport, a.arrived ++ a.coming) ∧
      ((∃ v rest, s got = .ready (v, rest)) ∨ a.ended = true) ∧
      ∀ e, result = .error e → a.ended = true ∧ a.arrived ++ a.coming = [] := by
  have hleft := left_eq hgot
  obtain ⟨rfl, ⟨v, rest, hready, rfl⟩ | ⟨count, cause, hmore, hread, rfl⟩⟩ :=
    Scan.pull_eq_ends hrun
  · -- nothing was asked for that belongs to the next call
    obtain rfl := h.tight got hgot v rest hready
    have hall := hs.steady hready (a.arrived ++ a.coming)
    exact ⟨rfl, by rw [hleft, Scan.toDecoder_eq_ok_iff.mpr hall]; rfl, .inl ⟨v, [], hready⟩, nofun⟩
  · obtain ⟨hnil, -⟩ : a.arrived = [] ∧ _ := (Inlet.inPieces a.ended most).ahead_ended hread
    have hended : a.ended = true := by
      by_contra hopen
      exact (Inlet.splits_inPieces a.ended most).stays (by simpa using hopen) _ _ _ hread
    have hbehind : a.arrived ++ a.coming = [] := by
      rw [hnil, (h.closed hended).2, List.append_nil]
    rw [hbehind, List.append_nil] at hleft
    refine ⟨rfl, ?_, .inr hended, fun _ _ => ⟨hended, hbehind⟩⟩
    rw [hleft, hbehind, Scan.toDecoder_of_more hmore]
    rfl

/-- As long as nothing is returned and nothing used up, only what a call has got and the end of the
stream have to be looked at. -/
theorem Sound.of_left_eq (h : Sound s ends stream a) (hresults : a'.results = a.results)
    (hleft : a'.left = a.left) (hended : a.ended = true → a'.ended = true)
    (hclosed : a'.ended = true → ends = true ∧ a'.coming = [])
    (htight : ∀ got, a'.got = some got → s.Tight got) : Sound s ends stream a' where
  closed := hclosed
  tight := htight
  reads := by rw [hresults, hleft, h.reads]
  failed := by
    rw [hresults, hleft]
    intro e he
    obtain ⟨hold, hrest⟩ := h.failed e he
    exact ⟨hended hold, hrest⟩

/-- A step uses nothing up and leaves less to happen before a call returns, or a call returns what
the scan makes of all that was left to it. -/
theorem Sound.step_cases (hs : s.Lawful) (h : Sound s ends stream a) (hstep : Step s ends a a') :
    Sound s ends stream a' ∧
      ((a'.results = a.results ∧ a'.left = a.left ∧ (a.got ≠ none → a'.got ≠ none) ∧
        a'.rank < a.rank) ∨
      a.Returned (s.toDecoder a.left).1 (s.toDecoder a.left).2 a' ∧ ∃ got, a.got = some got ∧
        ((∃ v rest, s got = .ready (v, rest)) ∨ a.ended = true)) := by
  cases hstep with
  | arrives chunk coming hcoming hne =>
    have hleft : left { a with arrived := a.arrived ++ chunk, coming := coming } = a.left := by
      simp [left, hcoming]
    have hpos := List.length_pos_iff.mpr hne
    refine ⟨h.of_left_eq rfl hleft id ?_ h.tight, .inl ⟨rfl, hleft, id, ?_⟩⟩
    · intro hended
      have hnil := (h.closed hended).2
      rw [hcoming] at hnil
      exact absurd (List.append_eq_nil_iff.mp hnil).1 hne
    · simp only [rank, hcoming, List.length_append]
      omega
  | closes hcoming hends hopen =>
    refine ⟨h.of_left_eq rfl rfl (fun _ => rfl) (fun _ => ⟨hends, hcoming⟩) h.tight,
      .inl ⟨rfl, rfl, id, ?_⟩⟩
    simp [rank, hopen]
  | begins hnone =>
    have hleft : left { a with got := some [] } = a.left := by simp [left, hnone]
    refine ⟨h.of_left_eq rfl hleft id h.closed ?_, .inl ⟨rfl, hleft, by simp, ?_⟩⟩
    · rintro _ ⟨rfl⟩
      exact hs.tight_nil
    · simp [rank, hnone]
  | @goesOn got got' arrived most hgot hrun =>
    obtain ⟨count, cause, chunk, hmore, hle, hne, rfl, hahead⟩ := Scan.pull_eq_goesOn hs hrun
    have harrived : a.arrived = chunk ++ arrived := hahead
    have hleft : left { a with got := some (got ++ chunk), arrived := arrived } = a.left := by
      simp [left, hgot, harrived]
    have hpos := List.length_pos_iff.mpr hne
    refine ⟨h.of_left_eq rfl hleft id h.closed ?_, .inl ⟨rfl, hleft, by simp, ?_⟩⟩
    · rintro _ ⟨rfl⟩
      exact hs.tight_append hmore hle
    · have hlt : arrived.length < a.arrived.length := by
        rw [harrived, List.length_append]
        omega
      simpa [rank, hgot] using hlt
  | @returns got arrived result most hgot hrun =>
    obtain ⟨rfl, hof, hwhy, herror⟩ := h.returned hs hgot hrun
    refine ⟨⟨h.closed, nofun, ?_, ?_⟩, .inr ⟨⟨rfl, ?_, ?_⟩, got, hgot, hwhy⟩⟩
    · rw [List.length_append, List.length_singleton, Decoder.inTurn_succ, h.reads]
      show (a.results ++ [(s.toDecoder a.left).1], (s.toDecoder a.left).2) = _
      rw [hof]
      rfl
    · intro e he
      rcases List.mem_append.mp he with he | he
      · obtain ⟨hended, hnil, hcause⟩ := h.failed e he
        rw [left_eq hgot] at hnil
        exact ⟨hended, (List.append_eq_nil_iff.mp hnil).2, hcause⟩
      · cases result with
        | ok v => simp [Except.mapError] at he
        | error cause =>
          obtain ⟨hended, hnil⟩ := herror cause rfl
          obtain rfl : e = .transport cause := by simpa [Except.mapError] using he
          exact ⟨hended, hnil, cause, rfl⟩
    · rw [hof]
    · rw [hof]
      rfl

theorem Sound.run (hs : s.Lawful) (h : Sound s ends stream a)
    (hrun : Relation.ReflTransGen (Step s ends) a a') : Sound s ends stream a' := by
  induction hrun with
  | refl => exact h
  | tail _ hstep ih => exact (ih.step_cases hs hstep).1

/-! ## Waiting -/

theorem pull_of_ready {v : α} {rest : Bytes} (h : s got = .ready (v, rest)) (most : Nat) :
    a.pull s got most = .ends (.ok v, a.arrived) := by
  simp [pull, Scan.pull, h]

/-- A call waits when it lacks bytes of which none has arrived, and the stream has not ended. -/
theorem waits_of_more (hgot : a.got = some got) (hmore : s got = .more count cause)
    (hnil : a.arrived = []) (hopen : a.ended = false) : a.Waits s :=
  ⟨got, hgot, fun most => by simp [pull, Scan.pull, hmore, Inlet.inPieces, hnil, hopen]⟩

/-- Something is bound to happen next, unless a call waits for bytes that never come. -/
theorem exists_step_or_waits : (∃ a', Step s ends a a') ∨
    (a.Waits s ∧ a.coming = [] ∧ ends = false ∧ ∃ count cause, s a.left = .more count cause) := by
  cases hgot : a.got with
  | none => exact .inl ⟨_, .begins hgot⟩
  | some got =>
    cases hscan : s got with
    | ready found => exact .inl ⟨_, .returns 0 hgot (pull_of_ready hscan 0)⟩
    | more count cause =>
      by_cases hnil : a.arrived = []
      · by_cases hcoming : a.coming = []
        · cases hended : a.ended with
          | true =>
            have hrun : a.pull s got 0 = .ends (.error cause, a.arrived) := by
              simp [pull, Scan.pull, hscan, Inlet.inPieces, hnil, hended]
            exact .inl ⟨_, .returns 0 hgot hrun⟩
          | false =>
            cases hends : ends with
            | true => exact .inl ⟨_, .closes hcoming rfl hended⟩
            | false =>
              have hleft : a.left = got := by simp [left_eq hgot, hnil, hcoming]
              exact .inr ⟨waits_of_more hgot hscan hnil hended, hcoming, rfl, count, cause,
                hleft ▸ hscan⟩
        · exact .inl ⟨_, .arrives a.coming [] (List.append_nil _).symm hcoming⟩
      · have hrun : a.pull s got 0 = .goesOn (got ++ a.arrived.take (min count 1),
            a.arrived.drop (min count 1)) := by
          simp [pull, Scan.pull, hscan, Inlet.inPieces, hnil]
        exact .inl ⟨_, .goesOn 0 hgot hrun⟩

/-- As long as what has arrived does not suffice and the stream has not ended, the call does not
return. -/
theorem Sound.stays (hs : s.Lawful) (h : Sound s ends stream a) (hgot : a.got = some got)
    (hmore : s (got ++ a.arrived) = .more count cause) (hopen : a.ended = false)
    (hstep : Step s ends a a') : a'.results = a.results ∧ a'.got ≠ none := by
  rcases (h.step_cases hs hstep).2 with ⟨hresults, -, hcall, -⟩ | ⟨-, got', hgot', hwhy⟩
  · exact ⟨hresults, hcall (by simp [hgot])⟩
  · obtain rfl : got = got' := Option.some.inj (hgot.symm.trans hgot')
    rcases hwhy with ⟨v, rest, hready⟩ | hended
    · cases hmore.symm.trans (hs.steady hready a.arrived)
    · cases hopen.symm.trans hended

/-! ## What is bound to happen -/

/-- The next call to return is bound to do so, unless it lacks bytes that never come. -/
theorem Sound.returns (hs : s.Lawful) (h : Sound s ends stream a)
    (hends : ∀ {count cause}, s a.left = .more count cause → ends = true) :
    Eventually (Step s ends) (fun a' => Sound s ends stream a' ∧
      a.Returned (s.toDecoder a.left).1 (s.toDecoder a.left).2 a') a := by
  refine Eventually.of_rank
    (I := fun x => Sound s ends stream x ∧ x.results = a.results ∧ x.left = a.left) rank ?_ ?_
    ⟨h, rfl, rfl⟩
  · rintro x ⟨hx, -, hleft⟩
    rcases exists_step_or_waits with hgo | ⟨-, -, hforever, count, cause, hmore⟩
    · exact hgo
    · rw [hleft] at hmore
      cases hforever.symm.trans (hends hmore)
  · rintro x x' ⟨hx, hresults, hleft⟩ hstep
    obtain ⟨hx', ⟨hsame, hkept, -, hlt⟩ | ⟨hreturned, -⟩⟩ := hx.step_cases hs hstep
    · exact .inr ⟨⟨hx', hsame.trans hresults, hkept.trans hleft⟩, hlt⟩
    · rw [hleft] at hreturned
      exact .inl ⟨hx', hreturned.got_eq, hresults ▸ hreturned.results_eq, hreturned.left_eq⟩

/-- On a stream that goes on for ever without the bytes that a call lacks, nothing is returned and
nothing used up. -/
theorem Sound.keeps (hs : s.Lawful) (h : Sound s false stream a)
    (hmore : s a.left = .more count cause) (hstep : Step s false a a') :
    Sound s false stream a' ∧ a'.results = a.results ∧ a'.left = a.left ∧ a'.rank < a.rank := by
  obtain ⟨h', ⟨hresults, hleft, -, hlt⟩ | ⟨-, got, hgot, hwhy⟩⟩ := h.step_cases hs hstep
  · exact ⟨h', hresults, hleft, hlt⟩
  · rcases hwhy with ⟨v, rest, hready⟩ | hended
    · rw [left_eq hgot] at hmore
      cases hmore.symm.trans (hs.steady hready (a.arrived ++ a.coming))
    · cases (h.closed hended).1

theorem Sound.never_returns (hs : s.Lawful) (h : Sound s false stream a)
    (hmore : s a.left = .more count cause) (hrun : Relation.ReflTransGen (Step s false) a a') :
    a'.results = a.results ∧ a'.left = a.left := by
  induction hrun with
  | refl => exact ⟨rfl, rfl⟩
  | tail hbefore hstep ih =>
    obtain ⟨hresults, hleft⟩ := ih
    obtain ⟨-, hsame, hkept, -⟩ := (h.run hs hbefore).keeps hs (hleft ▸ hmore) hstep
    exact ⟨hsame.trans hresults, hkept.trans hleft⟩

/-- A call that waits when all has arrived waits for ever. -/
theorem Waits.not_step (h : a.Waits s) (hcoming : a.coming = []) : ¬ Step s false a a' := by
  obtain ⟨got, hgot, hwaits⟩ := h
  rintro (⟨chunk, coming, hsplit, hne⟩ | ⟨-, hends, -⟩ | hnone | ⟨most, hgot', hrun⟩ |
    ⟨most, hgot', hrun⟩)
  · rw [hcoming] at hsplit
    exact hne (List.append_eq_nil_iff.mp hsplit.symm).1
  · cases hends
  · cases hnone.symm.trans hgot
  all_goals
    obtain rfl := Option.some.inj (hgot.symm.trans hgot')
    cases (hwaits most).symm.trans hrun

/-- The call that lacks bytes comes to wait for ever. -/
theorem Sound.stalls (hs : s.Lawful) (h : Sound s false stream a)
    (hmore : s a.left = .more count cause) :
    Eventually (Step s false) (fun a' => a'.Waits s ∧ ∀ a'', ¬ Step s false a' a'') a := by
  by_cases hwaits : a.Waits s ∧ ∀ a', ¬ Step s false a a'
  · exact .now hwaits
  refine Eventually.of_rank (I := fun x => Sound s false stream x ∧ x.left = a.left ∧
    ¬ (x.Waits s ∧ ∀ x', ¬ Step s false x x')) rank ?_ ?_ ⟨h, rfl, hwaits⟩
  · rintro x ⟨-, -, hnot⟩
    rcases exists_step_or_waits with hgo | ⟨hx, hcoming, -⟩
    · exact hgo
    · exact absurd ⟨hx, fun x' => hx.not_step hcoming⟩ hnot
  · rintro x x' ⟨hx, hleft, -⟩ hstep
    obtain ⟨hx', -, hkept, hlt⟩ := hx.keeps hs (hleft ▸ hmore) hstep
    by_cases hdone : x'.Waits s ∧ ∀ x'', ¬ Step s false x' x''
    · exact .inl hdone
    · exact .inr ⟨⟨hx', hkept.trans hleft, hdone⟩, hlt⟩

/-- More calls are bound to return, unless one of them lacks bytes that never come. -/
theorem Sound.completes (hs : s.Lawful) (h : Sound s ends stream a) {n : Nat}
    (hn : a.results.length ≤ n)
    (hends : ∀ e, .error e ∈ (s.toDecoder.inTurn stream n).1 → ends = true) :
    Eventually (Step s ends) (fun a' => Sound s ends stream a' ∧ a'.results.length = n) a := by
  induction n, hn using Nat.le_induction with
  | base => exact .now ⟨h, rfl⟩
  | succ n _ ih =>
    have hfewer : ∀ e, .error e ∈ (s.toDecoder.inTurn stream n).1 → ends = true := fun e he =>
      hends e ((Decoder.inTurn_prefix (Nat.le_succ n)).mem he)
    refine (ih hfewer).trans fun x ⟨hx, hlength⟩ => ?_
    have hnext : s.toDecoder.inTurn stream (n + 1) =
        (x.results ++ [(s.toDecoder x.left).1], (s.toDecoder x.left).2) := by
      rw [Decoder.inTurn_succ, ← hlength, hx.reads]
    refine (hx.returns hs fun {count cause} hmore => ?_).mono fun x' ⟨hx', hreturned⟩ => ⟨hx', ?_⟩
    · refine hends (.transport cause) ?_
      rw [hnext, Scan.toDecoder_of_more hmore]
      simp
    · rw [hreturned.results_eq, List.length_append, hlength, List.length_singleton]

end Scanning

end MediaOverQuic
