import Spreadsheet.Proofs.Function.Correspondence
import Spreadsheet.Proofs.Value.Alike

/-! Functions do not tell arguments apart that look alike. -/

namespace Spreadsheet

section Lists

variable {ε α β γ : Type} {R : α → β → Prop} {xs : List α} {ys : List β}

theorem flatMap_eq_of_forall₂ {f : α → List γ} {g : β → List γ}
    (related : List.Forall₂ R xs ys) (same : ∀ x y, R x y → f x = g y)
    : xs.flatMap f = ys.flatMap g := by
  induction related with
  | nil => rfl
  | cons first _ ih => rw [List.flatMap_cons, List.flatMap_cons, same _ _ first, ih]

/-- To keep what a step finds is to run over the whole list and drop what was not found afterwards,
by induction on the list.
-/
theorem filterMapM_eq_mapM (f : α → Except ε (Option γ)) (xs : List α)
    : xs.filterMapM f = (xs.mapM f).map List.reduceOption := by
  have run (found : List γ) : List.filterMapM.loop f xs found
      = (xs.mapM f).map fun ys => found.reverse ++ ys.reduceOption := by
    induction xs generalizing found with
    | nil => simp [List.filterMapM.loop, Except.map, pure, Except.pure]
    | cons x xs ih =>
      rw [List.filterMapM.loop, List.mapM_cons]
      cases f x with
      | error e => rfl
      | ok y =>
        cases y with
        | none =>
          refine (ih found).trans ?_
          cases xs.mapM f <;> rfl
        | some y =>
          refine (ih (y :: found)).trans ?_
          cases xs.mapM f with
          | error e => rfl
          | ok ys => simp [Except.map, bind, Except.bind, pure, Except.pure]
  exact run []

/-- What a step skips can be left out of the list beforehand, by induction on the list. -/
theorem filterMapM_filter {f : α → Except ε (Option γ)} {p : α → Bool}
    (skips : ∀ x, p x = false → f x = .ok none) (xs : List α)
    : (xs.filter p).filterMapM f = xs.filterMapM f := by
  rw [filterMapM_eq_mapM, filterMapM_eq_mapM]
  have step (x : α) (xs : List α) : ((x :: xs).mapM f).map List.reduceOption
      = f x >>= fun y => ((xs.mapM f).map List.reduceOption).map (y.toList ++ ·) := by
    rw [List.mapM_cons]
    cases f x with
    | error e => rfl
    | ok y => cases xs.mapM f <;> cases y <;> rfl
  induction xs with
  | nil => rfl
  | cons x xs ih =>
    rw [step]
    cases keeps : p x with
    | false =>
      rw [List.filter_cons_of_neg (by simp [keeps]), ih, skips x keeps]
      cases xs.mapM f <;> rfl
    | true => rw [List.filter_cons_of_pos keeps, step, ih]

/-- Lists are related that differ in one place only, and there by related members. -/
theorem forall₂_middle {S : α → α → Prop} (refl : ∀ x, S x x) {x y : α} (h : S x y)
    (before after : List α)
    : List.Forall₂ S (before ++ x :: after) (before ++ y :: after) :=
  have same (xs : List α) : List.Forall₂ S xs xs := List.forall₂_same.mpr fun x _ => refl x
  List.rel_append (same before) (.cons h (same after))

end Lists

/-- Functions see two contexts as one: the place, the mode, the date system and the year are the
same.
-/
structure Context.Alike (ctx ctx' : Context) : Prop where
  here : ctx.here = ctx'.here
  arrayMode : ctx.arrayMode = ctx'.arrayMode
  dates : ctx.dates = ctx'.dates
  year : ctx.year = ctx'.year

variable {ctx ctx' : Context}

theorem Area.Alike.dates {a b : Area Value} (h : a.Alike b) (system : DateSystem) (year : Int)
    : a.dates system year = b.dates system year := by
  rw [Area.dates, Area.dates, h.cellCount, h.entries]

/-- Whoever does not count blank cells only looks at the others. -/
theorem filterMapM_isData {α : Type} {stored : Value → Except CellError (Option α)}
    (skipsBlank : stored .blank = .ok none) (cells : List Value)
    : (cells.filter Value.isData).filterMapM stored = cells.filterMapM stored := by
  refine filterMapM_filter (fun value isBlank => ?_) cells
  cases value with
  | blank => exact skipsBlank
  | _ => cases isBlank

namespace Value.Alike

variable {v w : Value}

/-- Blank cells inside a reference do not count, so that it does not matter which are stored. -/
theorem counted (h : v.Alike w) {α : Type} {stored : Value → Except CellError (Option α)}
    (skipsBlank : stored .blank = .ok none)
    : v.storedCells?.map (List.filterMapM stored)
      = w.storedCells?.map (List.filterMapM stored) := by
  have ofData (cells : List Value)
      : cells.filterMapM stored = (cells.filter Value.isData).filterMapM stored :=
    (filterMapM_isData skipsBlank cells).symm
  cases h with
  | same => rfl
  | @area a b h =>
    change some (a.cells.toList.filterMapM stored) = some (b.cells.toList.filterMapM stored)
    rw [ofData, ofData b.cells.toList]
    exact congrArg (some <| List.filterMapM stored ·) h.data
  | @union as bs h =>
    change some ((as.flatMap fun a => a.cells.toList).filterMapM stored)
      = some ((bs.flatMap fun b => b.cells.toList).filterMapM stored)
    rw [ofData, ofData (bs.flatMap _), List.filter_flatMap, List.filter_flatMap]
    exact congrArg (some <| List.filterMapM stored ·)
      (flatMap_eq_of_forall₂ h fun a b h => h.data)

theorem listed (h : v.Alike w) (system : DateSystem) (here : Position) (year : Int)
    : Value.dates system here (some v) year = Value.dates system here (some w) year := by
  cases h with
  | same => rfl
  | area h => exact h.dates system year
  | union h =>
    change (List.mapM _ _ >>= _) = (List.mapM _ _ >>= _)
    rw [mapM_eq_of_forall₂ h fun a b h => h.dates system year]

theorem passedOn (h : v.Alike w) : (Scalar.passedOn v).Alike (Scalar.passedOn w) := by
  cases h with
  | same => exact .same _
  | area h => exact .area h
  | union h => exact .union h

/-- Values that look alike correspond to each other. -/
theorem correspondence (same : ctx.Alike ctx') : Correspondence ctx ctx' Alike where
  system := same.dates
  year := same.year
  scalar v _ := .same v
  passedOn _ _ h := h.passedOn
  seen _ _ h := same.here ▸ h.resolve
  counted _ _ h _ _ skipsBlank := h.counted skipsBlank
  listed _ _ h system year := same.here ▸ h.listed system ctx.here year
  lifted v w h f _ := by
    rw [Context.lift, Context.lift, Context.scalar, Context.scalar, same.arrayMode, same.here,
      h.lift₁, h.resolve]
    exact Agree.of_eq rfl .same

end Value.Alike

end Spreadsheet
