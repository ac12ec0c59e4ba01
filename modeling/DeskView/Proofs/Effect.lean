import DeskView.Effect
import DeskView.Surface.Basic

/-!
# Calls among effects

Which engine calls and which target calls stand in a list of effects: both views go through
concatenation, and each kind of effect is seen by one view only.
-/

namespace DeskView.Effect

@[simp]
theorem engineCalls_append (xs ys : List Effect) :
    engineCalls (xs ++ ys) = engineCalls xs ++ engineCalls ys :=
  List.filterMap_append

@[simp]
theorem targetCalls_append (xs ys : List Effect) :
    targetCalls (xs ++ ys) = targetCalls xs ++ targetCalls ys :=
  List.filterMap_append

@[simp]
theorem engineCalls_nil : engineCalls [] = [] := rfl

@[simp]
theorem targetCalls_nil : targetCalls [] = [] := rfl

@[simp]
theorem engineCalls_engine (call : Engine.Call) (xs : List Effect) :
    engineCalls (.engine call :: xs) = call :: engineCalls xs := rfl

@[simp]
theorem engineCalls_log (r : Log.Record) (xs : List Effect) :
    engineCalls (.log r :: xs) = engineCalls xs := rfl

@[simp]
theorem targetCalls_engine (call : Engine.Call) (xs : List Effect) :
    targetCalls (.engine call :: xs) = targetCalls xs := rfl

@[simp]
theorem targetCalls_log (r : Log.Record) (xs : List Effect) :
    targetCalls (.log r :: xs) = targetCalls xs := rfl

@[simp]
theorem engineCalls_map_engine (calls : List Engine.Call) :
    engineCalls (calls.map .engine) = calls := by
  induction calls with
  | nil => rfl
  | cons call calls ih => rw [List.map_cons, engineCalls_engine, ih]

@[simp]
theorem targetCalls_map_engine (calls : List Engine.Call) :
    targetCalls (calls.map .engine) = [] := by
  induction calls with
  | nil => rfl
  | cons call calls ih => rw [List.map_cons, targetCalls_engine, ih]

@[simp]
theorem engineCalls_map_log (records : List Log.Record) :
    engineCalls (records.map .log) = [] := by
  induction records with
  | nil => rfl
  | cons r records ih => rw [List.map_cons, engineCalls_log, ih]

@[simp]
theorem targetCalls_map_log (records : List Log.Record) :
    targetCalls (records.map .log) = [] := by
  induction records with
  | nil => rfl
  | cons r records ih => rw [List.map_cons, targetCalls_log, ih]

/-- A presented frame makes target calls only, those of its transaction. -/
@[simp]
theorem targetCalls_presented {T : Type} (c : Presented T) : targetCalls c.effects = c.calls := by
  unfold Presented.effects targetCalls
  rw [List.filterMap_map]
  exact List.filterMap_some

@[simp]
theorem engineCalls_presented {T : Type} (c : Presented T) : engineCalls c.effects = [] := by
  unfold Presented.effects engineCalls
  rw [List.filterMap_map]
  exact List.filterMap_eq_nil_iff.mpr fun _ _ => rfl

end DeskView.Effect
