import SolidSyslog.Buffer.CircularBuffer
import SolidSyslog.Lib.LittleEndian

/-!
# Which records a ring holds

`Layout b q` reads the ring as the queue `q` of records: one stretch from head to tail, or,
after the tail has wrapped, the stretch from head to the wrap point followed by the one from
the front to the tail. In the wrapped shape the tail stays strictly below the head, so head and
tail meet only on an empty queue.
-/

namespace SolidSyslog.Buffer

open Lib

/-! ## Framing -/

/-- A record as it lies in the ring. -/
def frame (data : Bytes) : Bytes :=
  UInt8.ofNat (data.length &&& 0xFF) :: UInt8.ofNat ((data.length >>> 8) &&& 0xFF) :: data

/-- Records back to back. -/
def frames (q : List Bytes) : Bytes :=
  q.flatMap frame

@[simp] theorem length_frame (data : Bytes) : (frame data).length = headerBytes + data.length := by
  simp only [frame, List.length_cons, headerBytes]
  omega

@[simp] theorem frames_nil : frames [] = [] := rfl

@[simp] theorem frames_cons (data : Bytes) (q : List Bytes) :
    frames (data :: q) = frame data ++ frames q := rfl

@[simp] theorem frames_append (q₁ q₂ : List Bytes) :
    frames (q₁ ++ q₂) = frames q₁ ++ frames q₂ := by
  simp [frames]

theorem length_le_frames (q : List Bytes) : 2 * q.length ≤ (frames q).length := by
  induction q with
  | nil => simp
  | cons data q ih =>
    simp only [frames_cons, List.length_append, List.length_cons, length_frame, headerBytes]
    omega

theorem frames_pos {q : List Bytes} (h : q ≠ []) : 0 < (frames q).length := by
  have := length_le_frames q
  have := List.length_pos_iff.2 h
  omega

/-! ## The layout -/

/-- The records of a ring, oldest first. -/
inductive Layout (b : CircularBuffer) : List Bytes → Prop
  /-- The records lie in one stretch from head to tail. -/
  | straight {q : List Bytes} (marker : b.wrapPoint = b.capacity)
      (stretch : b.head + (frames q).length = b.tail) (fits : b.tail ≤ b.capacity)
      (records : OccursAt b.ring b.head (frames q)) : Layout b q
  /-- The tail has wrapped: the older records run to the wrap point, the newer from the front. -/
  | wrapped {older newer : List Bytes} (stretch : b.head + (frames older).length = b.wrapPoint)
      (fits : b.wrapPoint ≤ b.capacity) (front : (frames newer).length = b.tail)
      (apart : b.tail < b.head) (some_newer : newer ≠ [])
      (records : OccursAt b.ring b.head (frames older))
      (records' : OccursAt b.ring 0 (frames newer)) : Layout b (older ++ newer)

/-- The ring holds exactly the queue `q`, and its memory is the caller's. -/
structure HoldsQueue (b : CircularBuffer) (q : List Bytes) : Prop where
  memory : b.ring.length = b.capacity
  layout : Layout b q
  sizes : ∀ data ∈ q, data.length ≤ 65535

namespace HoldsQueue

variable {b : CircularBuffer} {q : List Bytes}

theorem head_eq_tail_iff (h : HoldsQueue b q) : b.head = b.tail ↔ q = [] := by
  cases h.layout with
  | straight marker stretch fits records =>
    constructor
    · intro heq
      by_contra hne
      have := frames_pos hne
      omega
    · rintro rfl
      simpa using stretch
  | wrapped stretch fits front apart some_newer records records' =>
    constructor
    · intro heq
      omega
    · intro hnil
      exact absurd (List.append_eq_nil_iff.1 hnil).2 some_newer

theorem isEmpty_iff (h : HoldsQueue b q) : b.isEmpty = true ↔ q = [] := by
  rw [← h.head_eq_tail_iff]
  simp [CircularBuffer.isEmpty]

/-- The queue a ring holds takes no more bytes than the ring has. -/
theorem length_le (h : HoldsQueue b q) : q.length ≤ b.capacity := by
  cases h.layout with
  | straight marker stretch fits records =>
    have := length_le_frames q
    omega
  | @wrapped older newer stretch fits front apart some_newer records records' =>
    have := length_le_frames older
    have := length_le_frames newer
    simp only [List.length_append]
    omega

/-- The latches and the full flag play no part in what the ring holds. -/
theorem congr {b' : CircularBuffer} (h : HoldsQueue b q) (hring : b'.ring = b.ring)
    (hcap : b'.capacity = b.capacity) (hhead : b'.head = b.head) (htail : b'.tail = b.tail)
    (hwrap : b'.wrapPoint = b.wrapPoint) : HoldsQueue b' q := by
  refine ⟨by rw [hring, hcap, h.memory], ?_, h.sizes⟩
  cases h.layout with
  | straight marker stretch fits records =>
    exact .straight (by rw [hwrap, hcap, marker]) (by rw [hhead, htail, stretch])
      (by rw [htail, hcap]; exact fits) (by rw [hring, hhead]; exact records)
  | wrapped stretch fits front apart some_newer records records' =>
    exact .wrapped (by rw [hhead, hwrap, stretch]) (by rw [hwrap, hcap]; exact fits)
      (by rw [htail, front]) (by rw [htail, hhead]; exact apart) some_newer
      (by rw [hring, hhead]; exact records) (by rw [hring]; exact records')

theorem resetToStart (h : HoldsQueue b q) : HoldsQueue b.resetToStart [] :=
  ⟨h.memory, .straight rfl (by simp [CircularBuffer.resetToStart])
    (by simp [CircularBuffer.resetToStart]) (OccursAt.nil (by simp [CircularBuffer.resetToStart])),
    by simp⟩

end HoldsQueue

theorem initialise_holds (ring : Bytes) : HoldsQueue (CircularBuffer.initialise ring) [] :=
  ⟨rfl, .straight rfl rfl (Nat.zero_le _) (OccursAt.nil (Nat.zero_le _)), by simp⟩

/-! ## The head record -/

/-- The head is on the frame of the queue's oldest record. -/
structure HeadOn (b : CircularBuffer) (data : Bytes) (q : List Bytes) : Prop where
  holds : HoldsQueue b (data :: q)
  before : b.head < b.wrapPoint
  occurs : OccursAt b.ring b.head (frame data)

theorem pastMarker_of_lt {b : CircularBuffer} (h : b.head < b.wrapPoint) : b.pastMarker = b := by
  unfold CircularBuffer.pastMarker CircularBuffer.headAtWrapPoint
  rw [decide_eq_false (by omega)]
  rfl

theorem pastMarker_of_le {b : CircularBuffer} (h : b.wrapPoint ≤ b.head) :
    b.pastMarker = b.consumeWrapMarker := by
  unfold CircularBuffer.pastMarker CircularBuffer.headAtWrapPoint
  rw [decide_eq_true h]
  rfl

@[simp] theorem pastMarker_capacity (b : CircularBuffer) : b.pastMarker.capacity = b.capacity := by
  unfold CircularBuffer.pastMarker
  split <;> rfl

/-- Once its wrap marker is consumed, the head of a non-empty ring is on the oldest record. -/
theorem pastMarker_headOn {b : CircularBuffer} {data : Bytes} {q : List Bytes}
    (h : HoldsQueue b (data :: q)) : HeadOn b.pastMarker data q := by
  have hmem := h.memory
  have hsizes := h.sizes
  have hlayout := h.layout
  generalize hq : data :: q = whole at hlayout
  cases hlayout with
  | straight marker stretch fits records =>
    subst hq
    have hlt : b.head < b.wrapPoint := by
      have := frames_pos (q := data :: q) (by simp)
      omega
    rw [pastMarker_of_lt hlt]
    exact ⟨h, hlt, records.left⟩
  | @wrapped older newer stretch fits front apart some_newer records records' =>
    cases older with
    | nil =>
      -- The older stretch is used up: the head stands on the marker and goes to the front.
      simp only [List.nil_append] at hq
      subst hq
      have hat : b.wrapPoint ≤ b.head := by
        simp only [frames_nil, List.length_nil] at stretch; omega
      have hpos := frames_pos some_newer
      rw [pastMarker_of_le hat]
      refine ⟨⟨hmem, .straight rfl ?_ ?_ records', hsizes⟩, ?_, records'.left⟩
      · simpa [CircularBuffer.consumeWrapMarker] using front
      · simp only [CircularBuffer.consumeWrapMarker]; omega
      · simp only [CircularBuffer.consumeWrapMarker]; omega
    | cons data' older =>
      simp only [List.cons_append, List.cons.injEq] at hq
      obtain ⟨rfl, rfl⟩ := hq
      have hlt : b.head < b.wrapPoint := by
        have := frames_pos (q := data :: older) (by simp)
        omega
      rw [pastMarker_of_lt hlt]
      exact ⟨h, hlt, records.left⟩

namespace HeadOn

variable {b : CircularBuffer} {data : Bytes} {q : List Bytes}

theorem peekRecordSize (h : HeadOn b data q) : b.peekRecordSize = .ok data.length := by
  have hsize : data.length ≤ 65535 := h.holds.sizes data List.mem_cons_self
  have hlow : b.ring[b.head]? = some (UInt8.ofNat (data.length &&& 0xFF)) := by
    have := h.occurs.getElem? (i := 0) (by simp only [length_frame, headerBytes]; omega)
    simpa [frame] using this
  have hhigh : b.ring[b.head + 1]? = some (UInt8.ofNat ((data.length >>> 8) &&& 0xFF)) := by
    have := h.occurs.getElem? (i := 1) (by simp only [length_frame, headerBytes]; omega)
    simpa [frame] using this
  unfold CircularBuffer.peekRecordSize loadByte
  rw [hlow, hhigh]
  exact congrArg Except.ok (unpack_length hsize)

theorem body (h : HeadOn b data q) : OccursAt b.ring (b.head + headerBytes) data := by
  have hsplit : OccursAt b.ring b.head ([UInt8.ofNat (data.length &&& 0xFF),
      UInt8.ofNat ((data.length >>> 8) &&& 0xFF)] ++ data) := h.occurs
  exact hsplit.right

/-- Moving the head past its record leaves the rest of the queue. -/
theorem advance (h : HeadOn b data q) :
    HoldsQueue { b with head := b.head + (headerBytes + data.length) } q := by
  have hlayout := h.holds.layout
  have hsizes : ∀ d ∈ q, d.length ≤ 65535 := fun d hd =>
    h.holds.sizes d (List.mem_cons_of_mem _ hd)
  generalize hq : data :: q = whole at hlayout
  cases hlayout with
  | straight marker stretch fits records =>
    subst hq
    refine ⟨h.holds.memory, .straight marker ?_ fits ?_, hsizes⟩
    · simp only [frames_cons, List.length_append, length_frame] at stretch ⊢
      omega
    · rw [frames_cons] at records
      rw [← length_frame]
      exact records.right
  | @wrapped older newer stretch fits front apart some_newer records records' =>
    cases older with
    | nil =>
      -- The head is before the marker, so the older stretch is not used up.
      have := h.before
      simp only [frames_nil, List.length_nil] at stretch
      omega
    | cons data' older =>
      simp only [List.cons_append, List.cons.injEq] at hq
      obtain ⟨rfl, rfl⟩ := hq
      refine ⟨h.holds.memory, .wrapped ?_ fits front ?_ some_newer ?_ records', hsizes⟩
      · simp only [frames_cons, List.length_append, length_frame] at stretch ⊢
        omega
      · simp only; omega
      · rw [frames_cons] at records
        rw [← length_frame]
        exact records.right

end HeadOn

end SolidSyslog.Buffer
