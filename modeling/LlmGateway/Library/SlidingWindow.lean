import Mathlib.Algebra.Order.Group.Defs
import Mathlib.Data.List.Induction
import Mathlib.Data.Int.Order.Basic
import Mathlib.Tactic.Abel

/-!
# Sliding windows

Times of an ordered group, in the order in which they were recorded, and windows of a fixed
width. A list of times is *paced* when each time has at most a given number of times in
the window that ends with it. `Paced.window` turns this into a bound for every window of
that width, wherever it lies. The reference limiter `admits` records a time exactly when
it stays paced, and `granted_of_room` says that room in one window is room for the
times to come.
-/

set_option autoImplicit false

namespace LlmGateway.Library.SlidingWindow

variable {T : Type} [AddCommGroup T] [LinearOrder T]

/-- The times of the half-open window of a given width that ends now. -/
def recent (width now : T) (times : List T) : List T :=
  times.filter fun time => decide (now - width < time ∧ time ≤ now)

theorem recent_append (width now : T) (first second : List T) :
    recent width now (first ++ second) = recent width now first ++ recent width now second :=
  List.filter_append ..

/-! ## Paced lists of times and the reference limiter -/

/-- Each time has at most `limit` times in the window that ends with it, itself included. -/
def Paced (width : T) (limit : ℤ) (times : List T) : Prop :=
  ∀ before time after, times = before ++ time :: after →
    ((recent width time (before ++ [time])).length : ℤ) ≤ limit

theorem paced_nil (width : T) (limit : ℤ) : Paced width limit [] := by
  intro before time after split
  simp at split

theorem paced_snoc {width time : T} {limit : ℤ} {times : List T} (paced : Paced width limit times)
    (room : ((recent width time (times ++ [time])).length : ℤ) ≤ limit) :
    Paced width limit (times ++ [time]) := by
  intro before other after split
  cases after using List.reverseRecOn with
  | nil =>
      obtain ⟨rfl, same⟩ := List.append_inj' split rfl
      obtain rfl := List.cons.inj same |>.1
      exact room
  | append_singleton after last _ =>
      have shorter : times = before ++ other :: after := by
        rw [← List.cons_append, ← List.append_assoc] at split
        exact (List.append_inj' split rfl).1
      exact paced before other after shorter

theorem Paced.initial {width time : T} {limit : ℤ} {times : List T}
    (paced : Paced width limit (times ++ [time])) : Paced width limit times := by
  intro before other after split
  exact paced before other (after ++ [time]) (by simp [split])

/-- A call is allowed when fewer than `limit` recorded times lie in the window that ends now. -/
def admits (width : T) (limit : ℤ) (times : List T) (now : T) : Bool :=
  decide (((recent width now times).length : ℤ) < limit)

/-- The recorded times after a call. -/
def offer (width : T) (limit : ℤ) (times : List T) (now : T) : List T :=
  if admits width limit times now then times ++ [now] else times

/-! ## Windows anywhere -/

/-- **Every window of a paced list**: a set of times any two of which are less than the width
apart holds at most `limit` of them. -/
theorem Paced.window {width : T} {limit : ℤ} {times : List T} (inside : T → Bool)
    (narrow : ∀ first second, inside first = true → inside second = true → first ≤ second →
      second - width < first)
    (sorted : times.Pairwise (· ≤ ·)) (paced : Paced width limit times) :
    ((times.filter inside).length : ℤ) ≤ max limit 0 := by
  induction times using List.reverseRecOn with
  | nil => simp
  | append_singleton times time ih =>
      obtain ⟨earlier, -, order⟩ := List.pairwise_append.mp sorted
      by_cases member : inside time = true
      · -- all times of the set lie in the window that ends with the last of them
        have fewer : ((times ++ [time]).filter inside).length ≤
            (recent width time (times ++ [time])).length := by
          rw [recent, ← List.countP_eq_length_filter, ← List.countP_eq_length_filter]
          apply List.countP_mono_left
          intro other there also
          have before : other ≤ time := by
            rcases List.mem_append.mp there with old | new
            · exact order other old time (List.mem_singleton_self time)
            · exact le_of_eq (List.mem_singleton.mp new)
          simp only [decide_eq_true_eq]
          exact ⟨narrow other time also member before, before⟩
        have room := paced times time [] rfl
        exact le_max_of_le_left (le_trans (Int.ofNat_le.mpr fewer) room)
      · rw [List.filter_append, List.filter_cons_of_neg member, List.filter_nil, List.append_nil]
        exact ih earlier paced.initial

variable [IsOrderedAddMonoid T]

/-- The windows that contain their end. -/
theorem Paced.window_right {width : T} {limit : ℤ} {times : List T}
    (sorted : times.Pairwise (· ≤ ·)) (paced : Paced width limit times) (start : T) :
    ((times.filter fun time => decide (start < time ∧ time ≤ start + width)).length : ℤ) ≤
      max limit 0 := by
  refine paced.window _ (fun first second low high order => ?_) sorted
  simp only [decide_eq_true_eq] at low high
  exact lt_of_le_of_lt (sub_le_iff_le_add.mpr high.2) low.1

/-- The windows that contain their start. -/
theorem Paced.window_left {width : T} {limit : ℤ} {times : List T}
    (sorted : times.Pairwise (· ≤ ·)) (paced : Paced width limit times) (start : T) :
    ((times.filter fun time => decide (start ≤ time ∧ time < start + width)).length : ℤ) ≤
      max limit 0 := by
  refine paced.window _ (fun first second low high order => ?_) sorted
  simp only [decide_eq_true_eq] at low high
  exact lt_of_lt_of_le (sub_lt_iff_lt_add.mpr high.2) low.1

/-- A window that ends later holds no more of the times up to now. -/
theorem recent_length_anti {width now later : T} {times : List T} (order : now ≤ later)
    (past : ∀ time ∈ times, time ≤ now) :
    (recent width later times).length ≤ (recent width now times).length := by
  rw [recent, recent, ← List.countP_eq_length_filter, ← List.countP_eq_length_filter]
  apply List.countP_mono_left
  intro time member inside
  simp only [decide_eq_true_eq] at inside ⊢
  exact ⟨lt_of_le_of_lt (sub_le_sub_right order width) inside.1, past time member⟩

/-- A time of positive width lies in the window that ends with it. -/
theorem recent_self {width : T} (positive : 0 < width) (now : T) :
    recent width now [now] = [now] := by
  simp [recent, positive]

/-- **Room in a window is room for the calls to come**: when `room` more times fit now, the
next `room` calls are allowed, whenever they come. -/
theorem granted_of_room {width : T} {limit : ℤ} {times : List T} (now : T) (calls : List T)
    (sorted : (now :: calls).Pairwise (· ≤ ·)) (past : ∀ time ∈ times, time ≤ now)
    (room : ((recent width now times).length + calls.length : ℤ) ≤ limit) :
    ∀ before call after, calls = before ++ call :: after →
      admits width limit (before.foldl (offer width limit) times) call = true := by
  induction calls generalizing now times with
  | nil =>
      intro before call after split
      simp at split
  | cons next rest ih =>
      obtain ⟨later, ordered⟩ := List.pairwise_cons.mp sorted
      have order : now ≤ next := later next List.mem_cons_self
      have fewer : (recent width next times).length ≤ (recent width now times).length :=
        recent_length_anti order past
      have allowed : admits width limit times next = true := by
        rw [admits, decide_eq_true_eq]
        push_cast [List.length_cons] at room
        omega
      intro before call after split
      cases before with
      | nil =>
          obtain ⟨rfl, -⟩ := List.cons.inj split
          exact allowed
      | cons first before =>
          obtain ⟨rfl, tail⟩ := List.cons.inj split
          rw [List.foldl_cons]
          refine ih next ordered ?_ ?_ before call after tail
          · intro time member
            rw [offer, if_pos allowed] at member
            rcases List.mem_append.mp member with old | new
            · exact le_trans (past time old) order
            · exact le_of_eq (List.mem_singleton.mp new)
          · rw [offer, if_pos allowed, recent_append, List.length_append]
            have one : (recent width next [next]).length ≤ 1 := List.length_filter_le _ _
            push_cast [List.length_cons] at room ⊢
            omega

end LlmGateway.Library.SlidingWindow
