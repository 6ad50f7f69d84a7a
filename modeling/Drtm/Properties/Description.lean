import Drtm.Properties.Lookup

/-!
# Descriptions and the buffer of the caller

A description is assembled by several prints, each behind what the ones before
it wanted to write.  Nothing compares that with the size of the buffer.
-/

namespace Drtm

open Foundation

namespace Thread

variable {th : Thread}

def pieces (th : Thread) : List (List UInt8) :=
  [th.name.cstring nameMaxSizeBytes ++ ascii [' ', '[', 'S', ':'] ++
      threadStates.getD th.state.toNat (ascii ['?']) ++
      ascii [',', ' ', 'P', ':'],
    if th.prioInherited > th.prioAssigned then
      decimal th.prioInherited.toNat ++ ascii ['('] ++
        decimal th.prioAssigned.toNat ++ ascii [')']
    else decimal th.prioAssigned.toNat] ++
  (if th.stack.isFloatingPoint then [ascii [',', ' ', 'F', 'P']] else []) ++
  [ascii [']']]

def describe (size : SizeT) (done : SizeT × Cells)
    (texts : List (List UInt8)) : SizeT × Cells :=
  texts.foldl (fun done text => appendDescription size text done) done

@[simp] theorem describe_nil (size : SizeT) (done : SizeT × Cells) :
    describe size done [] = done := rfl

@[simp] theorem describe_cons (size : SizeT) (done : SizeT × Cells)
    (text : List UInt8) (texts : List (List UInt8)) :
    describe size done (text :: texts) =
      describe size (appendDescription size text done) texts := rfl

theorem prepareDescription_eq_describe (th : Thread) (out : Cells)
    (size : SizeT) :
    th.prepareDescription out size = describe size (0, out) th.pieces := by
  unfold prepareDescription pieces
  cases th.stack.isFloatingPoint <;> rfl

theorem flatten_pieces (th : Thread) :
    th.pieces.flatten = th.descriptionText := by
  unfold pieces descriptionText
  cases th.stack.isFloatingPoint <;> simp

theorem describe_count (size : SizeT) (done : SizeT × Cells)
    (texts : List (List UInt8)) :
    (describe size done texts).1 =
      done.1 + UInt64.ofNat texts.flatten.length := by
  induction texts generalizing done with
  | nil => simp
  | cons text texts ih =>
      rw [describe_cons, ih]
      simp [appendDescription, snprintf, UInt64.ofNat_add, UInt64.add_assoc]

theorem appendDescription_of_fits {size : SizeT} (kept text : List UInt8)
    (cells : Cells) (h : kept.length + text.length < size.toNat) :
    appendDescription size text (UInt64.ofNat kept.length, cells) =
      (UInt64.ofNat (kept ++ text).length,
        cells.write kept.length (text ++ [0])) := by
  have hkept : kept.length ≤ size.toNat := by omega
  have hcount := toNat_ofNat_of_le hkept
  have hroom := toNat_sub_ofNat hkept
  rw [appendDescription, hcount, snprintf_eq_of_fits _ _ (by omega)]
  simp [UInt64.ofNat_add]

theorem describe_of_fits {size : SizeT} (kept : List UInt8) (cells : Cells)
    (texts : List (List UInt8))
    (h : (kept ++ texts.flatten).length < size.toNat) :
    describe size (UInt64.ofNat kept.length, cells.write 0 (kept ++ [0]))
        texts =
      (UInt64.ofNat (kept ++ texts.flatten).length,
        cells.write 0 (kept ++ texts.flatten ++ [0])) := by
  induction texts generalizing kept with
  | nil => simp
  | cons text texts ih =>
      rw [List.flatten_cons, ← List.append_assoc] at h
      have hfits : kept.length + text.length < size.toNat := by
        simp only [List.length_append] at h
        omega
      have hwrite := Cells.write_write cells 0 kept [0] (text ++ [0])
        (by simp)
      rw [Nat.zero_add, ← List.append_assoc] at hwrite
      rw [describe_cons, appendDescription_of_fits kept text _ hfits, hwrite,
        ih (kept ++ text) h, List.flatten_cons, ← List.append_assoc]

theorem prepareDescription_of_fits (out : Cells) {size : SizeT}
    (h : th.descriptionText.length < size.toNat) :
    th.prepareDescription out size =
      (UInt64.ofNat th.descriptionText.length,
        out.write 0 (th.descriptionText ++ [0])) := by
  rw [← flatten_pieces] at h ⊢
  rw [prepareDescription_eq_describe]
  cases hpieces : th.pieces with
  | nil =>
      unfold pieces at hpieces
      cases hpieces
  | cons text texts =>
      rw [hpieces, List.flatten_cons] at h
      have hfits : ([] : List UInt8).length + text.length < size.toNat := by
        simp only [List.length_append, List.length_nil] at h ⊢
        omega
      have hfirst := appendDescription_of_fits [] text out hfits
      rw [List.nil_append, List.length_nil] at hfirst
      have hzero : UInt64.ofNat 0 = 0 := rfl
      rw [hzero] at hfirst
      rw [describe_cons, hfirst, describe_of_fits text out texts h,
        List.flatten_cons]

end Thread

namespace Frontend

variable {s : Frontend} {tid : ThreadId} {out : Cells} {size : SizeT}

/-! ## The full text -/

def described (s : Frontend) (tid : ThreadId) : Option Thread :=
  if s.isSchedulerStarted then s.threads.record (s.threads.thread tid)
  else none

theorem getThreadDescription_eq (s : Frontend) (tid : ThreadId) (out : Cells)
    (size : SizeT) :
    s.getThreadDescription tid out size =
      match s.described tid with
      | some td => td.prepareDescription out size
      | none => (UInt64.ofNat Thread.defaultDescription.length,
          strcpy out Thread.defaultDescription) := by
  unfold getThreadDescription described
  cases s.isSchedulerStarted <;>
    cases s.threads.record (s.threads.thread tid) <;> rfl

def textOf (td : Option Thread) : List UInt8 :=
  match td with
  | some td => td.descriptionText
  | none => Thread.defaultDescription

theorem length_textOf (td : Option Thread) :
    0 < (textOf td).length ∧ (textOf td).length < 2 ^ 64 := by
  cases td with
  | none => decide
  | some td =>
      obtain ⟨hlong, hfits⟩ := td.length_descriptionText
      exact ⟨Nat.zero_lt_of_lt hlong, hfits⟩

theorem getThreadDescription_count :
    (s.getThreadDescription tid out size).1.toNat =
      (textOf (s.described tid)).length := by
  have hlt := (length_textOf (s.described tid)).2
  rw [getThreadDescription_eq]
  cases hdescribed : s.described tid with
  | none => rfl
  | some td =>
      rw [hdescribed] at hlt
      change (td.prepareDescription out size).1.toNat = _
      rw [Thread.prepareDescription_count, UInt64.toNat_ofNat']
      exact Nat.mod_eq_of_lt hlt

theorem getThreadDescription_of_fits
    (h : (textOf (s.described tid)).length < size.toNat) :
    (s.getThreadDescription tid out size).2 =
      out.write 0 (textOf (s.described tid) ++ [0]) := by
  rw [getThreadDescription_eq]
  cases hdescribed : s.described tid with
  | none => rfl
  | some td =>
      rw [hdescribed] at h
      exact congrArg Prod.snd (Thread.prepareDescription_of_fits out h)

def listedRecord (s : Frontend) (tid : ThreadId) : Option Thread :=
  (s.threads.pool.take s.getThreadsCount).find? fun th => th.id = tid

/-- The description of a listed thread, and the default one for any other id. -/
def fullText (s : Frontend) (tid : ThreadId) : List UInt8 :=
  textOf (s.listedRecord tid)

/-- A record of an earlier update answers for an id that is not listed. -/
def AnswersLeftOver (s : Frontend) (tid : ThreadId) : Prop :=
  s.isSchedulerStarted = true ∧ ¬ s.IsListed tid ∧
    ∃ th ∈ s.threads.pool, th.id = tid

theorem listedRecord_of_finds {index : Nat} {th : Thread}
    (hfinds : s.Finds tid index th) (hindex : index < s.getThreadsCount) :
    s.listedRecord tid = some th := by
  obtain ⟨hlt, hid, hfirst⟩ := List.findIdx?_eq_some_iff_getElem.mp hfinds.1
  obtain ⟨_, rfl⟩ := List.getElem?_eq_some_iff.mp hfinds.2
  refine List.find?_eq_some_iff_getElem.mpr
    ⟨hid, index, by simpa using ⟨hindex, hlt⟩, by simp, fun j hj => ?_⟩
  simpa using hfirst j hj

theorem listedRecord_of_not_isListed (h : ¬ s.IsListed tid) :
    s.listedRecord tid = none := by
  refine List.find?_eq_none.mpr fun th hth hid => h ?_
  exact isListed_iff.mpr ⟨th.addr, List.mem_map.mpr
    ⟨th, hth, by rw [of_decide_eq_true hid]⟩⟩

theorem described_of_not_answersLeftOver (h : ¬ s.AnswersLeftOver tid) :
    s.described tid = s.listedRecord tid := by
  by_cases hlisted : s.IsListed tid
  · obtain ⟨index, th, hfinds, hindex⟩ := finds_of_isListed hlisted
    rw [listedRecord_of_finds hfinds hindex, described,
      if_pos (started_of_isListed hlisted), hfinds.1]
    exact hfinds.2
  · rw [listedRecord_of_not_isListed hlisted, described]
    split
    · rename_i hstarted
      have hthread : s.threads.thread tid = none := by
        refine List.findIdx?_eq_none_iff.mpr fun th hth => ?_
        exact decide_eq_false fun hid => h ⟨hstarted, hlisted, th, hth, hid⟩
      rw [hthread]
      rfl
    · rfl

theorem length_fullText_of_answersLeftOver (h : s.AnswersLeftOver tid) :
    (s.fullText tid).length < (textOf (s.described tid)).length := by
  obtain ⟨hstarted, hlisted, th, hth, hid⟩ := h
  have hsome : (s.threads.thread tid).isSome := by
    rw [Threads.thread, List.findIdx?_isSome, List.any_eq_true]
    exact ⟨th, hth, decide_eq_true hid⟩
  obtain ⟨index, hthread⟩ := Option.isSome_iff_exists.mp hsome
  obtain ⟨td, hfinds, -⟩ := finds_of_thread hthread
  have hdescribed : s.described tid = some td := by
    rw [described, if_pos hstarted, hfinds.1]
    exact hfinds.2
  rw [fullText, listedRecord_of_not_isListed hlisted, hdescribed]
  exact td.length_descriptionText.1

/-- The call keeps to a buffer of `size` bytes and fills it as far as it goes. -/
structure RespectsBuffer (s : Frontend) (tid : ThreadId) (out : Cells)
    (size : SizeT) : Prop where
  outside : ∀ i, size.toNat ≤ i →
    (s.getThreadDescription tid out size).2 i = out i
  text : (s.getThreadDescription tid out size).2.slice 0
      (min (s.fullText tid).length (size.toNat - 1)) =
    (s.fullText tid).take (size.toNat - 1)
  terminated : (s.getThreadDescription tid out size).2
    (min (s.fullText tid).length (size.toNat - 1)) = 0
  count : (s.getThreadDescription tid out size).1.toNat =
    min (s.fullText tid).length (size.toNat - 1)
  remaining : ∀ td, s.described tid = some td →
    ∀ k < td.pieces.length,
      (Thread.describe size (0, out) (td.pieces.take k)).1 ≤ size

theorem remaining_of_fits {td : Thread} (h : td.descriptionText.length <
    size.toNat) (k : Nat) :
    (Thread.describe size (0, out) (td.pieces.take k)).1 ≤ size := by
  have hflatten : (td.pieces.take k).flatten.length +
      (td.pieces.drop k).flatten.length = td.descriptionText.length := by
    rw [← List.length_append, ← List.flatten_append, List.take_append_drop,
      Thread.flatten_pieces]
  have htaken : (td.pieces.take k).flatten.length ≤ size.toNat := by omega
  rw [Thread.describe_count, UInt64.zero_add, UInt64.le_iff_toNat_le,
    toNat_ofNat_of_le htaken]
  exact htaken

/--
The buffer is respected exactly if it has room for the whole text, and no
left-over record takes the place of a thread that is not listed.
-/
theorem respectsBuffer_iff (s : Frontend) (tid : ThreadId) (out : Cells)
    (size : SizeT) :
    s.RespectsBuffer tid out size ↔
      ¬ s.AnswersLeftOver tid ∧ (s.fullText tid).length < size.toNat := by
  constructor
  · intro h
    have hcount := h.count
    rw [getThreadDescription_count] at hcount
    have hlisted : ¬ s.AnswersLeftOver tid := by
      intro hleft
      have hlonger := length_fullText_of_answersLeftOver hleft
      omega
    have hpos := (length_textOf (s.described tid)).1
    rw [described_of_not_answersLeftOver hlisted] at hcount hpos
    change (s.fullText tid).length = _ at hcount
    change 0 < (s.fullText tid).length at hpos
    exact ⟨hlisted, by omega⟩
  · rintro ⟨hlisted, h⟩
    have hsame : textOf (s.described tid) = s.fullText tid :=
      congrArg textOf (described_of_not_answersLeftOver hlisted)
    have hmin : min (s.fullText tid).length (size.toNat - 1) =
        (s.fullText tid).length := by omega
    have hlength : (s.fullText tid ++ [0]).length =
        (s.fullText tid).length + 1 := by simp
    have hout : (s.getThreadDescription tid out size).2 =
        out.write 0 (s.fullText tid ++ [0]) := by
      rw [← hsame] at h ⊢
      exact getThreadDescription_of_fits h
    constructor
    · intro i hi
      rw [hout]
      exact Cells.write_of_ge out (by omega)
    · rw [hout, hmin, Cells.slice_write_append,
        List.take_of_length_le (by omega)]
    · have hend : (s.fullText tid).length < (s.fullText tid ++ [0]).length := by
        omega
      rw [hout, hmin, ← Nat.zero_add (s.fullText tid).length,
        Cells.write_inside out 0 hend]
      simp
    · rw [getThreadDescription_count, hsame, hmin]
    · intro td htd k _
      refine remaining_of_fits ?_ k
      rw [← hsame, htd] at h
      exact h

theorem description_leaves_buffer :
    ¬ ∀ (s : Frontend) (tid : ThreadId) (out : Cells) (size : SizeT),
      Reachable s → 1 ≤ size.toNat → s.RespectsBuffer tid out size := by
  intro h
  have hrespects := h twoListed (Image.firstThread >>> 2) (fun _ => 0) 10
    reachable_twoListed (by decide)
  -- The second print goes to offset 17, with a size that has wrapped.
  exact absurd (hrespects.outside 17 (by decide)) (by decide +kernel)

end Frontend

end Drtm
