import TouchScript.Geometry

namespace TouchScript

/-- The integer is a coordinate. -/
def Coordinate.Fits (n : Int) : Prop :=
  -2147483648 ≤ n ∧ n ≤ 2147483647

open Coordinate (Fits)

/-- The value of a coordinate is one. -/
theorem Coordinate.fits_val (c : Coordinate) : Fits c.val :=
  ⟨c.lo_le, c.le_hi⟩

/-- An integer is refused as a coordinate exactly if it is none. -/
theorem Coordinate.ofInt?_eq_none_iff {n : Int} :
    (Ranged.ofInt? n : Option Coordinate) = none ↔ ¬ Fits n := by
  rw [Ranged.ofInt?_eq_none_iff, Fits]
  omega

/-- Succeeds exactly if the integers at the distance to both sides are coordinates, and fails at the
left one if that is none. -/
structure Overflow.Guards {α : Type} (x distance : Int) (result : Except Overflow α) : Prop where
  succeeds : (∃ a, result = .ok a) ↔ Fits (x - distance) ∧ Fits (x + distance)
  subtraction : result = .error .subtraction ↔ ¬ Fits (x - distance)
  addition : result = .error .addition ↔ Fits (x - distance) ∧ ¬ Fits (x + distance)

/-- What is made of a success does not change when there is one. -/
theorem Overflow.Guards.map {α β : Type} {x distance : Int} {result : Except Overflow α}
    (h : Guards x distance result) (f : α → β) : Guards x distance (result.map f) := by
  obtain ⟨hsucceeds, hsubtraction, haddition⟩ := h
  cases result with
  | ok _ | error _ =>
    constructor
    · simpa [Except.map] using hsucceeds
    · simpa [Except.map] using hsubtraction
    · simpa [Except.map] using haddition

/-- A success that something was made of was a success before. -/
theorem Overflow.exists_of_map_eq_ok {α β : Type} {f : α → β} {result : Except Overflow α} {b : β}
    (h : result.map f = .ok b) : ∃ a, result = .ok a ∧ f a = b := by
  cases result with
  | ok a =>
    cases h
    exact ⟨a, rfl, rfl⟩
  | error o => cases h

namespace Point

/-- The points are on a level with a middle one and mirror images about it, the first of them at the
distance to its left. -/
structure Flanks (middle : Point) (distance : Int) (l r : Point) : Prop where
  x_eq : l.x.val = middle.x.val - distance
  mirrored : l.x.val + r.x.val = 2 * middle.x.val
  left_y : l.y = middle.y
  right_y : r.y = middle.y

/-- The points at a distance to the left and to the right. -/
def outer (p : Point) (distance : Coordinate) : Except Overflow (Point × Point) := do
  let l ← p.left distance
  let r ← p.right distance
  return (l, r)

variable (p : Point) (d : Coordinate)

/-- The points are looked at from left to right. -/
theorem outer_cases :
    (¬ Fits (p.x.val - d.val) ∧ p.outer d = .error .subtraction) ∨
      (Fits (p.x.val - d.val) ∧ ¬ Fits (p.x.val + d.val) ∧ p.outer d = .error .addition) ∨
      ∃ l r, p.Flanks d.val l r ∧ p.outer d = .ok (l, r) := by
  cases hleft : (Ranged.ofInt? (p.x.val - d.val) : Option Coordinate) with
  | none =>
    refine .inl ⟨Coordinate.ofInt?_eq_none_iff.mp hleft, ?_⟩
    simp only [outer, left, hleft, bind, Except.bind]
  | some l =>
    have hl := Ranged.ofInt?_eq_some_iff.mp hleft
    cases hright : (Ranged.ofInt? (p.x.val + d.val) : Option Coordinate) with
    | none =>
      refine .inr (.inl ⟨hl ▸ Coordinate.fits_val l, Coordinate.ofInt?_eq_none_iff.mp hright, ?_⟩)
      simp only [outer, left, right, hleft, hright, bind, Except.bind]
    | some r =>
      have hr := Ranged.ofInt?_eq_some_iff.mp hright
      refine .inr (.inr ⟨⟨l, p.y⟩, ⟨r, p.y⟩, ⟨hl, ?_, rfl, rfl⟩, ?_⟩)
      · dsimp only
        omega
      · simp only [outer, left, right, hleft, hright, bind, Except.bind, pure, Except.pure]

variable {p d} {l r : Point}

/-- Points to both sides exist only if both integers are coordinates. -/
theorem Flanks.fits (h : p.Flanks d.val l r) : Fits (p.x.val - d.val) ∧ Fits (p.x.val + d.val) := by
  have hl := Coordinate.fits_val l.x
  have hr := Coordinate.fits_val r.x
  have hx := h.x_eq
  have hmirrored := h.mirrored
  rw [← hx]
  have hsum : p.x.val + d.val = r.x.val := by omega
  rw [hsum]
  exact ⟨hl, hr⟩

/-- There is only one pair of points at a distance to both sides. -/
theorem Flanks.unique {l' r' : Point} (h : p.Flanks d.val l r) (h' : p.Flanks d.val l' r') :
    l = l' ∧ r = r' := by
  obtain ⟨lx, ly⟩ := l
  obtain ⟨rx, ry⟩ := r
  obtain ⟨lx', ly'⟩ := l'
  obtain ⟨rx', ry'⟩ := r'
  obtain ⟨hx, hmirrored, rfl, rfl⟩ := h
  obtain ⟨hx', hmirrored', rfl, rfl⟩ := h'
  dsimp only at hx hmirrored hx' hmirrored'
  have hl : lx = lx' := Ranged.ext (by omega)
  have hr : rx = rx' := Ranged.ext (by omega)
  rw [hl, hr]
  exact ⟨rfl, rfl⟩

/-- The outer points are there exactly if both integers are coordinates. The left one is computed
first, so it is the one that fails if neither is. -/
theorem guards_outer : Overflow.Guards p.x.val d.val (p.outer d) := by
  rcases outer_cases p d with ⟨hl, houter⟩ | ⟨hl, hr, houter⟩ | ⟨l, r, hflanks, houter⟩
  · rw [houter]
    exact ⟨by simp [hl], by simp [hl], by simp [hl]⟩
  · rw [houter]
    exact ⟨by simp [hr], by simp [hl], by simp [hl, hr]⟩
  · obtain ⟨hl, hr⟩ := hflanks.fits
    rw [houter]
    exact ⟨by simp [hl, hr], by simp [hl], by simp [hr]⟩

/-- The outer points are the mirror images at the distance, and no others. -/
theorem outer_eq_ok_iff : p.outer d = .ok (l, r) ↔ p.Flanks d.val l r := by
  rcases outer_cases p d with ⟨hl, houter⟩ | ⟨_, hr, houter⟩ | ⟨l', r', hflanks, houter⟩
  · rw [houter]
    exact iff_of_false nofun fun h => hl h.fits.1
  · rw [houter]
    exact iff_of_false nofun fun h => hr h.fits.2
  · rw [houter]
    constructor
    · rintro ⟨⟩
      exact hflanks
    · intro h
      obtain ⟨rfl, rfl⟩ := hflanks.unique h
      rfl

/-- Seen with the opposite distance, left and right change places. -/
theorem Flanks.neg {n : Int} (h : p.Flanks n l r) : p.Flanks (-n) r l := by
  obtain ⟨hx, hmirrored, hl, hr⟩ := h
  exact ⟨by omega, by omega, hr, hl⟩

/-- A tap of three fingers is the middle point between its outer points. -/
theorem threeFingers_eq : p.threeFingers = (p.outer fingerGap).map fun (l, r) => [l, p, r] := by
  cases hl : p.left fingerGap with
  | error o => simp only [threeFingers, outer, hl, bind, Except.bind, Except.map]
  | ok l =>
    cases hr : p.right fingerGap with
    | error o => simp only [threeFingers, outer, hl, hr, bind, Except.bind, Except.map]
    | ok r => simp only [threeFingers, outer, hl, hr, bind, Except.bind, Except.map, pure, Except.pure]

/-- A tap of three fingers succeeds exactly if there are coordinates 20 to both sides. -/
theorem guards_threeFingers (p : Point) : Overflow.Guards p.x.val 20 p.threeFingers := by
  rw [threeFingers_eq]
  exact (guards_outer (d := fingerGap)).map _

/-- The strokes between a center and two points: inward they begin at the center, outward they end
there. -/
def strokes (center : Point) : Direction → Point × Point → List (Point × Point)
  | .inward, (l, r) => [(center, l), (center, r)]
  | .outward, (l, r) => [(l, center), (r, center)]

/-- The strokes of a zoom lie between its center and its outer points. -/
theorem zoomStrokes_eq (direction : Direction) :
    p.zoomStrokes d direction = (p.outer d).map (p.strokes direction) := by
  cases hl : p.left d with
  | error o => simp only [zoomStrokes, outer, hl, bind, Except.bind, Except.map]
  | ok l =>
    cases hr : p.right d with
    | error o => simp only [zoomStrokes, outer, hl, hr, bind, Except.bind, Except.map]
    | ok r =>
      cases direction <;>
        simp only [zoomStrokes, outer, strokes, hl, hr, bind, Except.bind, Except.map, pure, Except.pure]

/-- When its ends change places the strokes come in the other order. -/
theorem strokes_swap (direction : Direction) (ends : Point × Point) :
    p.strokes direction ends.swap = (p.strokes direction ends).reverse := by
  cases direction <;> rfl

/-- With the opposite distance a zoom has the same strokes in the opposite order. -/
theorem zoomStrokes_of_neg {e : Coordinate} (hneg : e.val = -d.val) {direction : Direction}
    {strokes : List (Point × Point)} (h : p.zoomStrokes d direction = .ok strokes) :
    p.zoomStrokes e direction = .ok strokes.reverse := by
  rw [zoomStrokes_eq] at h ⊢
  obtain ⟨⟨l, r⟩, houter, rfl⟩ := Overflow.exists_of_map_eq_ok h
  have hopposite : p.outer e = .ok (r, l) := by
    rw [outer_eq_ok_iff, hneg]
    exact (outer_eq_ok_iff.mp houter).neg
  rw [hopposite, ← strokes_swap]
  rfl

/-- The three fingers of a tap and the two strokes of a zoom exist exactly if both outer points are on
the plane, and otherwise it is the left point that is missed if it is not. Where they exist, the outer
points are on a level with the middle one and mirror images about it; a zoom outward has the strokes
of the zoom inward, each reversed; and with the opposite distance the two strokes change places. At
the least distance, which has no opposite, no zoom has strokes. -/
theorem composed_gestures_exact (p : Point) (d : Coordinate) :
    Overflow.Guards p.x.val 20 p.threeFingers ∧
      (∀ direction, Overflow.Guards p.x.val d.val (p.zoomStrokes d direction)) ∧
      (∀ points, p.threeFingers = .ok points → ∃ l r, points = [l, p, r] ∧ p.Flanks 20 l r) ∧
      (∀ strokes, p.zoomStrokes d .inward = .ok strokes →
        ∃ l r, strokes = [(p, l), (p, r)] ∧ p.Flanks d.val l r) ∧
      p.zoomStrokes d .outward = (p.zoomStrokes d .inward).map (List.map Prod.swap) ∧
      (∀ (e : Coordinate) (direction : Direction) (strokes : List (Point × Point)), e.val = -d.val →
        (p.zoomStrokes d direction = .ok strokes ↔ p.zoomStrokes e direction = .ok strokes.reverse)) ∧
      (d.val = -2147483648 → ∀ direction strokes, p.zoomStrokes d direction ≠ .ok strokes) := by
  have hzoom (direction : Direction) : Overflow.Guards p.x.val d.val (p.zoomStrokes d direction) := by
    rw [zoomStrokes_eq]
    exact guards_outer.map _
  refine ⟨guards_threeFingers p, hzoom, fun points hpoints => ?_, fun strokes hstrokes => ?_, ?_,
    fun e direction strokes hneg => ⟨zoomStrokes_of_neg hneg, fun h => ?_⟩,
    fun hleast direction strokes hstrokes => ?_⟩
  · rw [threeFingers_eq] at hpoints
    obtain ⟨⟨l, r⟩, houter, rfl⟩ := Overflow.exists_of_map_eq_ok hpoints
    exact ⟨l, r, rfl, outer_eq_ok_iff.mp houter⟩
  · rw [zoomStrokes_eq] at hstrokes
    obtain ⟨⟨l, r⟩, houter, rfl⟩ := Overflow.exists_of_map_eq_ok hstrokes
    exact ⟨l, r, rfl, outer_eq_ok_iff.mp houter⟩
  · rw [zoomStrokes_eq, zoomStrokes_eq]
    cases p.outer d <;> rfl
  · -- The opposite of the opposite distance is the distance itself.
    have hback := zoomStrokes_of_neg (d := e) (e := d) (by omega) h
    rwa [List.reverse_reverse] at hback
  · obtain ⟨⟨_, hl⟩, ⟨hr, _⟩⟩ := (hzoom direction).succeeds.mp ⟨strokes, hstrokes⟩
    omega

/-- A center whose widest zoom ends at the left end of the plane. -/
def offCenter : Point := ⟨⟨-37, by decide, by decide⟩, ⟨613, by decide, by decide⟩⟩

/-- Twice the distance is reached to neither side, and the left side is the one that fails; with the
distance itself the zoom has both strokes, and the left end is reached. -/
theorem offCenter_exact :
    let leftEnd : Point := ⟨⟨-2147483648, by decide, by decide⟩, offCenter.y⟩
    let nearRightEnd : Point := ⟨⟨2147483574, by decide, by decide⟩, offCenter.y⟩
    let widest : Coordinate := ⟨2147483611, by decide, by decide⟩
    let opposite : Coordinate := ⟨-2147483611, by decide, by decide⟩
    let least : Coordinate := ⟨-2147483648, by decide, by decide⟩
    offCenter.zoomStrokes widest .inward = .ok [(offCenter, leftEnd), (offCenter, nearRightEnd)] ∧
      offCenter.Flanks 2147483611 leftEnd nearRightEnd ∧
      offCenter.zoomStrokes opposite .inward = .ok [(offCenter, nearRightEnd), (offCenter, leftEnd)] ∧
      (∀ strokes, offCenter.zoomStrokes least .outward ≠ .ok strokes) ∧
      ∃ l r, offCenter.threeFingers = .ok [l, offCenter, r] ∧ offCenter.Flanks 20 l r := by
  intro leftEnd nearRightEnd widest opposite least
  obtain ⟨_, _, hfingers, hinward, _, hneg, _⟩ := composed_gestures_exact offCenter widest
  obtain ⟨_, _, _, _, _, _, hleast⟩ := composed_gestures_exact offCenter least
  have hzoom : offCenter.zoomStrokes widest .inward =
      .ok [(offCenter, leftEnd), (offCenter, nearRightEnd)] := by rfl
  obtain ⟨l, r, hstrokes, hflanks⟩ := hinward _ hzoom
  cases hstrokes
  obtain ⟨l, r, hpoints, hbeside⟩ := hfingers _ rfl
  exact ⟨hzoom, hflanks, (hneg opposite .inward _ rfl).mp hzoom, hleast rfl .outward,
    l, r, congrArg _ hpoints, hbeside⟩

end Point

end TouchScript
