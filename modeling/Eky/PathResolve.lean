import Mathlib.Data.List.Basic

/-! # Resolving paths

    `resolve` of a path library takes its arguments from the last to the first until what it
    has is absolute, puts the working directory in front of the rest, and takes out the empty
    segments, the dots and the double dots.  On Windows an argument can name a drive, and
    arguments of another drive are passed over.

    - `resolve_plain`: below a root, segments that name nothing else than themselves stay
      what they are;
    - `resolve_device`: a segment that names a drive takes the path to that drive, whatever
      root stands in front of it. -/

namespace PathResolve

/-- A path as its characters. -/
abbrev Text := List Char

/-- The two flavours of paths. -/
inductive Platform
  | posix
  | win32
  deriving DecidableEq

/-- An argument taken apart: its drive or share, whether it begins at a root, and the segments
    behind. -/
structure Argument where
  device : Text := []
  absolute : Bool := false
  segments : List Text

/-- The text `device`, a separator, and the segments with a separator between each two. -/
structure ResolvedPath where
  device : Text
  segments : List Text
  deriving DecidableEq

/-- A letter and a colon. -/
def startsWithDevice : Text → Bool
  | letter :: ':' :: _ => letter.isAlpha
  | _ => false

/-- An argument in which there is no separator. -/
def segmentArgument (platform : Platform) (segment : Text) : Argument :=
  if platform = .win32 ∧ startsWithDevice segment = true then
    { device := segment.take 2, segments := [segment.drop 2] }
  else { segments := [segment] }

/-- A path while it is resolved, from the last argument on. -/
structure Resolution where
  device : Text := []
  tail : List Text := []
  absolute : Bool := false

section Resolve

-- whether two names of drives are the same but for their case
variable (sameDevice : Text → Text → Bool) (platform : Platform) (cwd : Text → Argument)

/-- One argument more, in front of the others. -/
def takeArgument (state : Resolution) (argument : Argument) : Resolution :=
  if state.absolute && (platform = .posix || state.device ≠ []) then state
  else if argument.device ≠ [] && state.device ≠ []
      && !sameDevice argument.device state.device then state
  else
    let device := if state.device = [] then argument.device else state.device
    if state.absolute then { state with device }
    else { device, tail := argument.segments ++ state.tail, absolute := argument.absolute }

/-- What one segment does to those in front of it. -/
def pushSegment (kept : List Text) (segment : Text) : List Text :=
  if segment = [] ∨ segment = ['.'] then kept
  else if segment = ['.', '.'] then kept.dropLast
  else kept ++ [segment]

/-- The segments without `.` and `..`. -/
def normalizeSegments (segments : List Text) : List Text := segments.foldl pushSegment []

/-- The working directory comes in front of all arguments, that of the drive if there is one. -/
def finishResolution (state : Resolution) : ResolvedPath :=
  let state := takeArgument sameDevice platform state (cwd state.device)
  { device := state.device, segments := normalizeSegments state.tail }

/-- `path.resolve`. -/
def resolve (arguments : List Argument) : ResolvedPath :=
  finishResolution sameDevice platform cwd
    (arguments.reverse.foldl (takeArgument sameDevice platform) {})

end Resolve

variable {sameDevice : Text → Text → Bool} {platform : Platform} {cwd : Text → Argument}

/-! ## Segments below a root -/

/-- A segment that stands for itself. -/
def Plain (segment : Text) : Prop := segment ≠ [] ∧ segment ≠ ['.'] ∧ segment ≠ ['.', '.']

variable {segments : List Text}

theorem foldl_pushSegment (h : ∀ segment ∈ segments, Plain segment) (kept : List Text) :
    segments.foldl pushSegment kept = kept ++ segments := by
  induction segments generalizing kept with
  | nil => exact (List.append_nil kept).symm
  | cons segment segments ih =>
      obtain ⟨hempty, hdot, hdots⟩ := h segment List.mem_cons_self
      have hpush : pushSegment kept segment = kept ++ [segment] := by
        rw [pushSegment, if_neg (not_or.mpr ⟨hempty, hdot⟩), if_neg hdots]
      rw [List.foldl_cons, hpush, ih fun other hother => h other (List.mem_cons_of_mem _ hother),
        List.append_assoc]
      rfl

theorem normalizeSegments_append {front : List Text} (h : ∀ segment ∈ segments, Plain segment) :
    normalizeSegments (front ++ segments) = normalizeSegments front ++ segments := by
  rw [normalizeSegments, List.foldl_append, foldl_pushSegment h]
  rfl

/-- Nothing but a tail has come together. -/
theorem takeArgument_start (argument : Argument) (tail : List Text) :
    takeArgument sameDevice platform { tail } argument
      = { device := argument.device, tail := argument.segments ++ tail,
          absolute := argument.absolute } := by
  simp [takeArgument]

theorem foldl_plain (h : ∀ segment ∈ segments, platform = .win32 → startsWithDevice segment = false)
    (tail : List Text) :
    (segments.map (segmentArgument platform)).reverse.foldl (takeArgument sameDevice platform)
        { tail } = { tail := segments ++ tail } := by
  induction segments with
  | nil => rfl
  | cons segment segments ih =>
      rw [List.map_cons, List.reverse_cons, List.foldl_append,
        ih fun other hother => h other (List.mem_cons_of_mem _ hother), List.foldl_cons,
        List.foldl_nil, takeArgument_start]
      have hplain : segmentArgument platform segment = { segments := [segment] } := by
        refine if_neg ?_
        rintro ⟨hwin, hdevice⟩
        rw [h segment List.mem_cons_self hwin] at hdevice
        exact Bool.false_ne_true hdevice
      rw [hplain]
      rfl

/-- The end of the loop does not look at the tail. -/
theorem finishResolution_absolute (device : Text) (tail : List Text) :
    finishResolution sameDevice platform cwd { device, tail, absolute := true }
      = { device := (finishResolution sameDevice platform cwd
            { device, tail := [], absolute := true }).device,
          segments := normalizeSegments tail } := by
  unfold finishResolution takeArgument
  dsimp only
  split
  · rfl
  · split
    · rfl
    · rfl

/-- **BELOW A ROOT** plain segments that name no drive are appended to what the root is. -/
theorem resolve_plain {root : Argument} (hroot : root.absolute = true)
    (hplain : ∀ segment ∈ segments, Plain segment)
    (hdevice : ∀ segment ∈ segments, platform = .win32 → startsWithDevice segment = false) :
    resolve sameDevice platform cwd (root :: segments.map (segmentArgument platform))
      = { device := (resolve sameDevice platform cwd [root]).device,
          segments := (resolve sameDevice platform cwd [root]).segments ++ segments } := by
  have hall : ∀ tail : List Text, takeArgument sameDevice platform { tail } root
      = { device := root.device, tail := root.segments ++ tail, absolute := true } := by
    intro tail
    rw [takeArgument_start, hroot]
  have hend : resolve sameDevice platform cwd (root :: segments.map (segmentArgument platform))
      = finishResolution sameDevice platform cwd
        { device := root.device, tail := root.segments ++ segments, absolute := true } := by
    rw [resolve, List.reverse_cons, List.foldl_append, foldl_plain hdevice, List.append_nil,
      List.foldl_cons, List.foldl_nil, hall]
  have hstart : resolve sameDevice platform cwd [root] = finishResolution sameDevice platform cwd
      { device := root.device, tail := root.segments, absolute := true } := by
    have h := hall []
    rw [List.append_nil] at h
    exact congrArg (finishResolution sameDevice platform cwd) h
  rw [hend, hstart, finishResolution_absolute, finishResolution_absolute root.device root.segments,
    normalizeSegments_append hplain]

/-! ## Segments that name a drive -/

/-- A drive that has been named stays. -/
theorem takeArgument_device {state : Resolution} (h : state.device ≠ []) (argument : Argument) :
    (takeArgument sameDevice platform state argument).device = state.device := by
  unfold takeArgument
  split
  · rfl
  · split
    · rfl
    · dsimp only
      split
      · rfl
      · rfl

theorem foldl_device {state : Resolution} (h : state.device ≠ []) (arguments : List Argument) :
    (arguments.foldl (takeArgument sameDevice platform) state).device = state.device := by
  induction arguments generalizing state with
  | nil => rfl
  | cons argument arguments ih =>
      have hstep := @takeArgument_device sameDevice platform state h argument
      rw [List.foldl_cons, ih (hstep ▸ h), hstep]

theorem foldl_named (tail : List Text) (h : ∃ segment ∈ segments, startsWithDevice segment = true) :
    ((segments.map (segmentArgument .win32)).foldl (takeArgument sameDevice .win32)
      { tail }).device ≠ [] := by
  induction segments generalizing tail with
  | nil =>
      obtain ⟨segment, hmem, -⟩ := h
      exact nomatch hmem
  | cons segment segments ih =>
      rw [List.map_cons, List.foldl_cons, takeArgument_start]
      by_cases hsegment : startsWithDevice segment = true
      · have hnamed : segmentArgument .win32 segment
            = { device := segment.take 2, segments := [segment.drop 2] } :=
          if_pos ⟨rfl, hsegment⟩
        have hne : segment.take 2 ≠ [] := by
          cases segment with
          | nil => exact nomatch hsegment
          | cons letter rest => exact List.cons_ne_nil _ _
        rw [hnamed, foldl_device hne]
        exact hne
      · have hplain : segmentArgument .win32 segment = { segments := [segment] } :=
          if_neg fun hboth => hsegment hboth.2
        rw [hplain]
        obtain ⟨other, hother, hdevice⟩ := h
        rcases List.mem_cons.mp hother with rfl | hother
        · exact absurd hdevice hsegment
        · exact ih ([segment] ++ tail) ⟨other, hother, hdevice⟩

/-- **A DRIVE** that a segment names is the drive of the path. -/
theorem resolve_device (h : ∃ segment ∈ segments, startsWithDevice segment = true) :
    ∃ device : Text, ∀ root : Argument,
      (resolve sameDevice .win32 cwd (root :: segments.map (segmentArgument .win32))).device
        = device := by
  have hnamed : ((segments.map (segmentArgument .win32)).reverse.foldl
      (takeArgument sameDevice .win32) {}).device ≠ [] := by
    rw [← List.map_reverse]
    obtain ⟨segment, hmem, hdevice⟩ := h
    exact foldl_named [] ⟨segment, List.mem_reverse.mpr hmem, hdevice⟩
  refine ⟨((segments.map (segmentArgument .win32)).reverse.foldl
    (takeArgument sameDevice .win32) {}).device, fun root => ?_⟩
  have hroot := @takeArgument_device sameDevice .win32 _ hnamed root
  rw [resolve, List.reverse_cons, List.foldl_append, List.foldl_cons, List.foldl_nil,
    finishResolution]
  dsimp only
  rw [takeArgument_device (hroot ▸ hnamed), hroot]

/-- A root with a drive is on that drive. -/
theorem resolve_root {device : Text} (hdevice : device ≠ []) (segments : List Text) :
    (resolve sameDevice .win32 cwd [{ device, absolute := true, segments }]).device = device := by
  rw [resolve, List.reverse_singleton, List.foldl_cons, List.foldl_nil, takeArgument_start,
    finishResolution]
  exact takeArgument_device hdevice _

end PathResolve
