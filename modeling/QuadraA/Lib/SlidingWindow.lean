import Mathlib.Data.List.Count

/-!
# Sliding windows

A limiter that keeps the times of what it let through, forgets those that are older than a window,
and lets nothing through while it keeps too many of them.

* `recent window now kept` — the times that are not forgotten;
* `Limited.send` — every window stays within its bound.
-/

namespace QuadraA.Lib

/-- The times that are still in a window that ends now. -/
def recent (window now : ℕ) (kept : List ℕ) : List ℕ := kept.filter fun t => now - t < window

/-- **Among the times that a window could still hold**, as many are kept as were sent. -/
def Tracks (window : ℕ) (sent kept : List ℕ) (now : ℕ) : Prop :=
  ∀ start, now < start + window →
    sent.countP (fun t => start ≤ t) ≤ kept.countP fun t => start ≤ t

/-- **Every window is within its bound.** -/
def Limited (window bound : ℕ) (sent : List ℕ) : Prop :=
  ∀ start, sent.countP (fun t => start ≤ t ∧ t < start + window) ≤ bound

variable {window bound now after : ℕ} {sent kept : List ℕ}

theorem tracks_nil (window : ℕ) (kept : List ℕ) (now : ℕ) : Tracks window [] kept now :=
  fun _ _ => Nat.zero_le _

theorem limited_nil (window bound : ℕ) : Limited window bound [] := fun _ => Nat.zero_le _

theorem Tracks.later (h : Tracks window sent kept now) (hle : now ≤ after) :
    Tracks window sent kept after :=
  fun start hstart => h start (by omega)

/-- What is forgotten is in no window that could still hold something. -/
theorem countP_recent {start : ℕ} (hwindow : 0 < window) (hstart : now < start + window)
    (kept : List ℕ) :
    (QuadraA.Lib.recent window now kept).countP (fun t => start ≤ t)
      = kept.countP fun t => start ≤ t := by
  rw [QuadraA.Lib.recent, List.countP_filter]
  refine List.countP_congr fun t _ => ?_
  simp only [Bool.and_eq_true, decide_eq_true_eq]
  omega

theorem Tracks.recent (hwindow : 0 < window) (h : Tracks window sent kept now) :
    Tracks window sent (QuadraA.Lib.recent window now kept) now := by
  intro start hstart
  rw [countP_recent hwindow hstart]
  exact h start hstart

theorem Tracks.push (h : Tracks window sent kept now) : Tracks window sent (kept ++ [now]) now := by
  intro start hstart
  rw [List.countP_append]
  exact Nat.le_trans (h start hstart) (Nat.le_add_right _ _)

theorem Tracks.send (h : Tracks window sent kept now) :
    Tracks window (sent ++ [now]) (kept ++ [now]) now := by
  intro start hstart
  rw [List.countP_append, List.countP_append]
  exact Nat.add_le_add_right (h start hstart) _

/-- **Sending keeps every window within its bound**, if fewer times than that are kept. -/
theorem Limited.send (h : Limited window bound sent) (htracks : Tracks window sent kept now)
    (hfew : kept.length < bound) : Limited window bound (sent ++ [now]) := by
  intro start
  rw [List.countP_append]
  by_cases hnow : start ≤ now ∧ now < start + window
  · have hsent : sent.countP (fun t => start ≤ t ∧ t < start + window)
        ≤ sent.countP fun t => start ≤ t := by
      refine List.countP_mono_left fun t _ ht => ?_
      exact decide_eq_true (of_decide_eq_true ht).1
    have hkept := htracks start hnow.2
    have hall : kept.countP (fun t => start ≤ t) ≤ kept.length := List.countP_le_length
    have hone : [now].countP (fun t => start ≤ t ∧ t < start + window) ≤ 1 :=
      List.countP_le_length
    omega
  · have hnone : [now].countP (fun t => start ≤ t ∧ t < start + window) = 0 := by
      simp [hnow]
    rw [hnone]
    exact h start

end QuadraA.Lib
