/-
# Splitting an MJPEG stream

`extract_mjpeg_frames` takes the complete images out of a buffer, and
`iter_mjpeg_frames` appends the chunks of a response to the buffer one by one. A buffer
without an opening marker is cleared as a whole. So an opening marker is lost when a cut
falls between its two bytes, and with it the image, if the image ends at all.
-/

import ImageStream.Base.Framing

namespace ImageStream

open Base

/-! ## The splitter -/

def jpegSoi : List UInt8 := [0xff, 0xd8]

def jpegEoi : List UInt8 := [0xff, 0xd9]

/-- `buffer.find(marker, start)`. -/
def find (buffer marker : List UInt8) (start : ℕ) : Option ℕ :=
  (findInfix marker (buffer.drop start)).map (start + ·)

theorem length_of_find {buffer marker : List UInt8} {start index : ℕ}
    (h : find buffer marker start = some index) (hmarker : marker ≠ []) :
    index + marker.length ≤ buffer.length := by
  obtain ⟨i, hi, rfl⟩ := Option.map_eq_some_iff.mp h
  obtain ⟨hroom, hfound⟩ := findInfix_eq_some hi
  have hpos := List.length_pos_of_ne_nil hmarker
  rw [List.length_drop] at hroom
  omega

/-- The frames that are taken out of a buffer, and what is left in it. -/
def extractMjpegFrames (buffer : List UInt8) : List (List UInt8) × List UInt8 :=
  match find buffer jpegSoi 0 with
  | none => ([], [])
  | some startIndex =>
      match _hend : find buffer jpegEoi (startIndex + jpegSoi.length) with
      | none => ([], buffer.drop startIndex)
      | some endIndex =>
          let frameEnd := endIndex + jpegEoi.length
          let (frames, rest) := extractMjpegFrames (buffer.drop frameEnd)
          ((buffer.take frameEnd).drop startIndex :: frames, rest)
termination_by buffer.length
decreasing_by
  have hroom := length_of_find _hend (by decide)
  rw [List.length_drop]
  simp only [jpegEoi, List.length_cons, List.length_nil] at hroom ⊢
  omega

/-- The loop of `iter_mjpeg_frames` over the chunks of a response, from a buffer. -/
def iterMjpegFrames (buffer : List UInt8) : List (List UInt8) → List (List UInt8)
  | [] => []
  | chunk :: chunks =>
      if chunk = [] then
        iterMjpegFrames buffer chunks
      else
        let (frames, rest) := extractMjpegFrames (buffer ++ chunk)
        frames ++ iterMjpegFrames rest chunks

/-! ## The splitter and the scanner -/

def jpegMarkers : Markers UInt8 where
  lead := 0xff
  opens := 0xd8
  closes := 0xd9
  lead_ne_opens := by decide
  lead_ne_closes := by decide
  opens_ne_closes := by decide

/-- The bytes of a frame, and those behind it, from the first marker on. -/
theorem split_frame {buffer : List UInt8} {startIndex endIndex : ℕ}
    (hstart : find buffer jpegSoi 0 = some startIndex)
    (hend : find buffer jpegEoi (startIndex + jpegSoi.length) = some endIndex) :
    ∃ i, findInfix jpegEoi (buffer.drop (startIndex + 2)) = some i ∧
      (buffer.take (endIndex + 2)).drop startIndex =
        jpegSoi ++ (buffer.drop (startIndex + 2)).take (i + 2) ∧
      buffer.drop (endIndex + 2) = (buffer.drop (startIndex + 2)).drop (i + 2) := by
  obtain ⟨i, hi, rfl⟩ := Option.map_eq_some_iff.mp hend
  obtain ⟨j, hj, rfl⟩ := Option.map_eq_some_iff.mp hstart
  obtain ⟨-, hfound⟩ := findInfix_eq_some hj
  simp only [List.drop_zero, Nat.zero_add] at hfound hi ⊢
  have hlength : jpegSoi.length = 2 := rfl
  rw [hlength] at hfound hi ⊢
  refine ⟨i, hi, ?_, ?_⟩
  · have hsplit : j + 2 + i + 2 = j + (2 + (i + 2)) := by omega
    rw [hsplit, List.drop_take, Nat.add_sub_cancel_left, List.take_add, hfound, List.drop_drop]
  · rw [List.drop_drop]
    congr 1

/-- What follows an opening marker is read in its frame. -/
theorem scan_of_find {buffer : List UInt8} {startIndex : ℕ}
    (hstart : find buffer jpegSoi 0 = some startIndex) :
    jpegMarkers.scan .outside buffer =
        jpegMarkers.scan (.inside jpegSoi) (buffer.drop (startIndex + 2)) ∧
      buffer.drop startIndex = jpegSoi ++ buffer.drop (startIndex + 2) := by
  obtain ⟨j, hj, rfl⟩ := Option.map_eq_some_iff.mp hstart
  obtain ⟨-, hfound⟩ := findInfix_eq_some hj
  simp only [List.drop_zero, Nat.zero_add] at hfound hj ⊢
  constructor
  · have hscan := jpegMarkers.scan_outside_of_findInfix buffer
    rwa [show findInfix [jpegMarkers.lead, jpegMarkers.opens] buffer = some j from hj] at hscan
  · have hsplit := List.take_append_drop 2 (buffer.drop j)
    rw [show (buffer.drop j).take 2 = jpegSoi from hfound, List.drop_drop] at hsplit
    exact hsplit.symm

/-- A buffer with an open frame is kept from this frame on. -/
theorem extractMjpegFrames_of_open {buffer : List UInt8} {startIndex : ℕ}
    (hstart : find buffer jpegSoi 0 = some startIndex)
    (hend : find buffer jpegEoi (startIndex + jpegSoi.length) = none) :
    extractMjpegFrames buffer = ([], buffer.drop startIndex) := by
  rw [extractMjpegFrames, hstart]
  dsimp only
  split
  · rfl
  · rename_i hsome
    rw [hend] at hsome
    cases hsome

/-- A complete frame is taken out. -/
theorem extractMjpegFrames_of_frame {buffer : List UInt8} {startIndex endIndex : ℕ}
    (hstart : find buffer jpegSoi 0 = some startIndex)
    (hend : find buffer jpegEoi (startIndex + jpegSoi.length) = some endIndex) :
    extractMjpegFrames buffer =
      ((buffer.take (endIndex + 2)).drop startIndex ::
          (extractMjpegFrames (buffer.drop (endIndex + 2))).1,
        (extractMjpegFrames (buffer.drop (endIndex + 2))).2) := by
  rw [extractMjpegFrames, hstart]
  dsimp only
  split
  · rename_i hnone
    rw [hend] at hnone
    cases hnone
  · rename_i index hsome
    rw [hend] at hsome
    cases hsome
    rfl

/-- The splitter finds what the scanner finds, and keeps the open frame. -/
theorem extractMjpegFrames_eq_scan (buffer : List UInt8) :
    extractMjpegFrames buffer =
      ((jpegMarkers.scan .outside buffer).2, (jpegMarkers.scan .outside buffer).1.held) := by
  induction buffer using extractMjpegFrames.induct with
  | case1 buffer hstart =>
      have hnone : findInfix [jpegMarkers.lead, jpegMarkers.opens] buffer = none :=
        Option.map_eq_none_iff.mp hstart
      have hscan := jpegMarkers.scan_outside_of_findInfix buffer
      rw [hnone] at hscan
      rw [extractMjpegFrames, hstart, hscan.1, hscan.2]
  | case2 buffer startIndex hstart hend =>
      obtain ⟨hinside, hframe⟩ := scan_of_find hstart
      have hnone : findInfix [jpegMarkers.lead, jpegMarkers.closes]
          (buffer.drop (startIndex + 2)) = none :=
        Option.map_eq_none_iff.mp hend
      have hscan := jpegMarkers.scan_inside_of_findInfix jpegSoi (buffer.drop (startIndex + 2))
      rw [hnone] at hscan
      rw [extractMjpegFrames_of_open hstart hend, hinside, hscan.1, hscan.2, ← hframe]
  | case3 buffer startIndex hstart endIndex hend frameEnd frames rest hextract ih =>
      obtain ⟨hinside, -⟩ := scan_of_find hstart
      obtain ⟨i, hi, hframe, hbehind⟩ := split_frame hstart hend
      have hsome : findInfix [jpegMarkers.lead, jpegMarkers.closes]
          (buffer.drop (startIndex + 2)) = some i := hi
      have hscan := jpegMarkers.scan_inside_of_findInfix jpegSoi (buffer.drop (startIndex + 2))
      rw [hsome] at hscan
      have hrest : extractMjpegFrames (buffer.drop (endIndex + 2)) =
          ((jpegMarkers.scan .outside (buffer.drop (endIndex + 2))).2,
            (jpegMarkers.scan .outside (buffer.drop (endIndex + 2))).1.held) := ih
      rw [extractMjpegFrames_of_frame hstart hend, hrest, hinside, hscan, hframe, hbehind]

/-- Noise is dropped, and an incomplete image is kept. -/
example : extractMjpegFrames [0x6e, 0xff, 0xd8, 0x63, 0xff, 0xd9, 0xff, 0xd8, 0x70] =
    ([[0xff, 0xd8, 0x63, 0xff, 0xd9]], [0xff, 0xd8, 0x70]) := by
  rw [extractMjpegFrames_eq_scan]
  decide

/-! ## Chunks -/

/-- The loop over the chunks forgets what the scanner forgets at every cut. -/
theorem iterMjpegFrames_eq_scanCut (before : List UInt8) (chunks : List (List UInt8)) :
    iterMjpegFrames (jpegMarkers.scan .outside before).1.held chunks =
      jpegMarkers.scanCut (jpegMarkers.scan .outside before).1.forget chunks := by
  induction chunks generalizing before with
  | nil => rfl
  | cons chunk chunks ih =>
      by_cases hempty : chunk = []
      · have hforget : ∀ s : Scan UInt8, s.forget.forget = s.forget := by
          intro s
          cases s <;> rfl
        rw [iterMjpegFrames, if_pos hempty, ih before, hempty]
        simp only [Markers.scanCut, Markers.scan_nil, hforget, List.nil_append]
      · -- What is left in the buffer leads the scanner back to where it was.
        have hbuffer : jpegMarkers.scan .outside
            ((jpegMarkers.scan .outside before).1.held ++ chunk) =
              jpegMarkers.scan (jpegMarkers.scan .outside before).1.forget chunk := by
          rw [Markers.scan_append, jpegMarkers.scan_held before]
          rfl
        have hnext := ih ((jpegMarkers.scan .outside before).1.held ++ chunk)
        rw [hbuffer] at hnext
        rw [iterMjpegFrames, if_neg hempty, extractMjpegFrames_eq_scan, hbuffer]
        dsimp only
        rw [hnext, Markers.scanCut]

theorem iterMjpegFrames_empty (chunks : List (List UInt8)) :
    iterMjpegFrames [] chunks = jpegMarkers.scanCut .outside chunks :=
  iterMjpegFrames_eq_scanCut [] chunks

/-- **Chunks.** For every byte string and every way of cutting it, the frames of the chunks
are those of the whole string if and only if no cut falls between the two bytes of an
opening marker whose frame is completed later on. -/
theorem iterMjpegFrames_eq_iff (chunks : List (List UInt8)) :
    iterMjpegFrames [] chunks = (extractMjpegFrames chunks.flatten).1 ↔
      ¬jpegMarkers.Severs .outside chunks := by
  rw [iterMjpegFrames_empty, extractMjpegFrames_eq_scan, ← jpegMarkers.scanCut_eq_iff]
  rfl

/-- The second chunk completes an opening marker, and the frame is lost. -/
theorem severed_marker_loses_frame :
    iterMjpegFrames [] [[0xff], [0xd8, 0x01, 0xff, 0xd9]] ≠
      (extractMjpegFrames [0xff, 0xd8, 0x01, 0xff, 0xd9]).1 := by
  rw [iterMjpegFrames_empty, extractMjpegFrames_eq_scan]
  decide

end ImageStream
