import Mathlib.Tactic
import MediaOverQuic.ReasonPhrase

/-!
# Texts that are cut down

A text may be cut where a character begins, which its bytes tell, and at its end. Looking back from
the last byte that there is room for, such a place is met within three bytes. What stands before it
is the longest beginning of whole characters that there is room for.
-/
namespace MediaOverQuic

theorem utf8Length_append (front back : List Char) :
    utf8Length (front ++ back) = utf8Length front + utf8Length back := by
  induction front with
  | nil => simp
  | cons c front ih => simp [ih, Nat.add_assoc]

theorem utf8Length_eq (text : String) : utf8Length text.toList = text.utf8ByteSize := by
  conv_rhs => rw [← String.ofList_toList (s := text)]
  induction text.toList with
  | nil => rfl
  | cons c cs ih =>
    rw [String.ofList_cons, String.utf8ByteSize_append, String.utf8ByteSize_singleton, ← ih,
      utf8Length_cons]

/-- Whole characters can be cut off behind byte `n`. -/
theorem isValid_iff {text : String} {n : Nat} : String.Pos.Raw.IsValid text ⟨n⟩ ↔
    ∃ front, front <+: text.toList ∧ utf8Length front = n := by
  have hsize (cs : List Char) : (String.ofList cs).utf8ByteSize = utf8Length cs := by
    rw [← utf8Length_eq, String.toList_ofList]
  rw [String.Pos.Raw.isValid_iff_exists_take_toList]
  constructor
  · rintro ⟨i, hi⟩
    exact ⟨_, List.take_prefix i text.toList, ((hsize _).symm.trans hi.symm)⟩
  · rintro ⟨front, hfront, rfl⟩
    refine ⟨front.length, ?_⟩
    rw [hsize, ← List.prefix_iff_eq_take.mp hfront]

/-! ## The longest beginning -/

theorem isPrefix_cutTo (room : Nat) (cs : List Char) : cutTo room cs <+: cs := by
  induction cs generalizing room with
  | nil => exact List.prefix_rfl
  | cons c cs ih =>
    unfold cutTo
    split_ifs
    · exact (List.prefix_cons_inj c).mpr (ih _)
    · exact List.nil_prefix

/-- What there is room for is not longer than what is kept. -/
theorem isPrefix_cutTo_of_le {room : Nat} {front cs : List Char} (hfront : front <+: cs)
    (hroom : utf8Length front ≤ room) : front <+: cutTo room cs := by
  induction cs generalizing room front with
  | nil => exact hfront
  | cons c cs ih =>
    cases front with
    | nil => exact List.nil_prefix
    | cons c' front =>
      obtain ⟨rfl, hback⟩ := List.cons_prefix_cons.mp hfront
      rw [utf8Length_cons] at hroom
      rw [cutTo, if_pos (by omega), List.prefix_cons_inj]
      exact ih hback (by omega)

theorem cutTo_of_le {room : Nat} {cs : List Char} (h : utf8Length cs ≤ room) :
    cutTo room cs = cs :=
  (isPrefix_cutTo room cs).eq_of_length_le (isPrefix_cutTo_of_le List.prefix_rfl h).length_le

/-- At most three bytes stay unused. -/
theorem lt_utf8Length_cutTo {room : Nat} {cs : List Char} (h : room < utf8Length cs) :
    room < utf8Length (cutTo room cs) + 4 := by
  induction cs generalizing room with
  | nil => cases h
  | cons c cs ih =>
    rw [utf8Length_cons] at h
    unfold cutTo
    split_ifs with hc
    · have hlater := @ih (room - c.utf8Size) (by omega)
      rw [utf8Length_cons]
      omega
    · have hsize := c.utf8Size_le_four
      rw [utf8Length_nil]
      omega

/-! ## Looking back -/

/-- The last place at which the text may be cut, looking back from byte `n`. -/
def boundaryBefore (text : String) : Nat → Nat
  | 0 => 0
  | n + 1 => if String.Pos.Raw.isValid text ⟨n + 1⟩ then n + 1 else boundaryBefore text n

theorem boundaryBefore_eq {text : String} {n b : Nat} (hb : String.Pos.Raw.IsValid text ⟨b⟩)
    (hle : b ≤ n) (hlast : ∀ m ≤ n, String.Pos.Raw.IsValid text ⟨m⟩ → m ≤ b) :
    boundaryBefore text n = b := by
  induction n with
  | zero => exact (Nat.le_zero.mp hle).symm
  | succ n ih =>
    unfold boundaryBefore
    split_ifs with hv
    · have hv' := hlast _ le_rfl (String.Pos.Raw.isValid_eq_true_iff.mp hv)
      omega
    · have hne : b ≠ n + 1 := by
        rintro rfl
        exact hv (String.Pos.Raw.isValid_eq_true_iff.mpr hb)
      exact ih (by omega) fun m hm => hlast m (by omega)

theorem isValid_cutTo (text : String) (n : Nat) :
    String.Pos.Raw.IsValid text ⟨utf8Length (cutTo n text.toList)⟩ :=
  isValid_iff.mpr ⟨_, isPrefix_cutTo n text.toList, rfl⟩

theorem le_utf8Length_cutTo {text : String} {n m : Nat} (hm : m ≤ n)
    (hv : String.Pos.Raw.IsValid text ⟨m⟩) : m ≤ utf8Length (cutTo n text.toList) := by
  obtain ⟨front, hfront, rfl⟩ := isValid_iff.mp hv
  obtain ⟨back, hback⟩ := isPrefix_cutTo_of_le hfront hm
  rw [← hback, utf8Length_append]
  exact Nat.le_add_right _ _

/-- What is kept is what stands before the place that is met. -/
theorem utf8Length_cutTo_eq (text : String) (n : Nat) :
    utf8Length (cutTo n text.toList) = boundaryBefore text n :=
  (boundaryBefore_eq (isValid_cutTo text n) (utf8Length_cutTo n text.toList) fun _ =>
    le_utf8Length_cutTo).symm

/-- What is left of a text of which no more than `room` bytes may be kept. -/
structure LongestCut (room : Nat) (text cut : String) : Prop where
  front : cut.toList <+: text.toList
  whole : String.Pos.Raw.IsValid text ⟨cut.utf8ByteSize⟩
  fits : cut.utf8ByteSize ≤ room
  longest : ∀ n ≤ room, String.Pos.Raw.IsValid text ⟨n⟩ → n ≤ cut.utf8ByteSize
  /-- The end is found by looking back. -/
  found : boundaryBefore text room = cut.utf8ByteSize
  all : text.utf8ByteSize ≤ room → cut = text
  /-- Looking back goes over three bytes at most. -/
  near : room < text.utf8ByteSize → room ≤ cut.utf8ByteSize + 3

theorem longestCut_cutTo (room : Nat) (text : String) :
    LongestCut room text (String.ofList (cutTo room text.toList)) := by
  have hlist : (String.ofList (cutTo room text.toList)).toList = cutTo room text.toList :=
    String.toList_ofList
  have hsize : (String.ofList (cutTo room text.toList)).utf8ByteSize =
      utf8Length (cutTo room text.toList) := by rw [← utf8Length_eq, hlist]
  refine ⟨?_, ?_, ?_, fun n hn hv => ?_, ?_, fun h => ?_, fun h => ?_⟩
  · rw [hlist]
    exact isPrefix_cutTo room text.toList
  · rw [hsize]
    exact isValid_cutTo text room
  · rw [hsize]
    exact utf8Length_cutTo room text.toList
  · rw [hsize]
    exact le_utf8Length_cutTo hn hv
  · rw [hsize, utf8Length_cutTo_eq]
  · rw [cutTo_of_le (by rwa [utf8Length_eq]), String.ofList_toList]
  · rw [hsize]
    have hlt : room < utf8Length (cutTo room text.toList) + 4 :=
      lt_utf8Length_cutTo (by rwa [utf8Length_eq])
    omega

namespace ReasonPhrase

theorem longestCut_truncating (text : String) : LongestCut 1024 text (truncating text).text :=
  longestCut_cutTo 1024 text

/-- Nothing is cut off a phrase. -/
theorem truncating_text (p : ReasonPhrase) : truncating p.text = p := by
  have hshort : p.text.utf8ByteSize ≤ 1024 := utf8Length_eq p.text ▸ p.utf8Length_le
  have hall := (longestCut_truncating p.text).all hshort
  obtain ⟨text, hle⟩ := p
  rw [mk.injEq]
  exact hall

end ReasonPhrase

end MediaOverQuic
