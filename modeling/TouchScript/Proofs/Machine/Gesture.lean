import TouchScript.Command

namespace TouchScript

namespace Gesture

variable {δ ε : Type} {R : δ → ε → Prop}

/-- Two gestures of one kind with the same points, distance and direction, whose durations, where they
have any, are related by `R`. -/
inductive Alike (R : δ → ε → Prop) : Gesture δ → Gesture ε → Prop where
  | tap (p : Point) : Alike R (.tap p) (.tap p)
  | threeFingerTap (p : Point) : Alike R (.threeFingerTap p) (.threeFingerTap p)
  | longPress (p : Point) {d : δ} {e : ε} (h : R d e) : Alike R (.longPress p d) (.longPress p e)
  | swipe (p q : Point) {d : δ} {e : ε} (h : R d e) : Alike R (.swipe p q d) (.swipe p q e)
  | zoom (p : Point) (distance : Coordinate) {d : δ} {e : ε} (h : R d e) (direction : Direction) :
      Alike R (.zoom p distance d direction) (.zoom p distance e direction)
  | multiTap (points : List Point) : Alike R (.multiTap points) (.multiTap points)
  | path (points : List Point) {d : δ} {e : ε} (h : R d e) : Alike R (.path points d) (.path points e)

/-- A gesture is alike to its image under a change of durations, in every relation in which each
duration stands to its own image. -/
theorem alike_map {f : δ → ε} (h : ∀ d, R d (f d)) (g : Gesture δ) : Alike R g (g.map f) := by
  cases g with
  | tap p => exact .tap p
  | threeFingerTap p => exact .threeFingerTap p
  | longPress p d => exact .longPress p (h d)
  | swipe p q d => exact .swipe p q (h d)
  | zoom p distance d direction => exact .zoom p distance (h d) direction
  | multiTap points => exact .multiTap points
  | path points d => exact .path points (h d)

section

variable (f : δ → ε) (g : Gesture δ)

@[simp]
theorem points_map : (g.map f).points = g.points := by
  cases g <;> rfl

@[simp]
theorem distance?_map : (g.map f).distance? = g.distance? := by
  cases g <;> rfl

@[simp]
theorem duration?_map : (g.map f).duration? = g.duration?.map f := by
  cases g <;> rfl

/-- The keyword of a gesture does not depend on its duration. -/
@[simp]
theorem keyword_map : (g.map f).keyword = g.keyword := by
  cases g with
  | zoom center distance duration direction => cases direction <;> rfl
  | _ => rfl

/-- Changing durations twice is changing them once, by both changes in turn. -/
theorem map_map {ζ : Type} (h : ε → ζ) : (g.map f).map h = g.map (h ∘ f) := by
  cases g <;> rfl

@[simp]
theorem map_id : g.map id = g := by
  cases g <;> rfl

end

/-- Two changes that agree on the duration of a gesture, if it has one, give the same gesture. -/
theorem map_congr {f h : δ → ε} {g : Gesture δ} (hsame : ∀ d ∈ g.duration?, f d = h d) :
    g.map f = g.map h := by
  cases g <;> simp_all [map, duration?]

end Gesture

end TouchScript
