import Mathlib.Data.List.Induction
import Insights.Pipeline.Plan

/-!
What a plan keeps of its operations. Filters and joins add up in the order of the calls, and of every
other kind the last operation alone counts. So a plan is told by seven views of its operations, and lists
of operations that look the same in all of them have the same plan.
-/

namespace Insights

namespace Operation

inductive Kind where
  | filter
  | sort
  | group
  | join
  | limit
  | offset
  | select
deriving DecidableEq

def kind : Operation → Kind
  | .filter _ => .filter
  | .sort _ => .sort
  | .group _ => .group
  | .join _ => .join
  | .limit _ => .limit
  | .offset _ => .offset
  | .select _ => .select

def predicates? : Operation → Option (List Predicate)
  | .filter predicates => some predicates
  | _ => none

def orders? : Operation → Option (List SortOrder)
  | .sort orders => some orders
  | _ => none

def grouping? : Operation → Option Grouping
  | .group grouping => some grouping
  | _ => none

def join? : Operation → Option DatasetJoin
  | .join joined => some joined
  | _ => none

def limit? : Operation → Option Value
  | .limit count => some count
  | _ => none

def offset? : Operation → Option Value
  | .offset count => some count
  | _ => none

def columns? : Operation → Option (List Value)
  | .select columns => some columns
  | _ => none

/-- The predicates of all filters. -/
def allPredicates (operations : List Operation) : List Predicate :=
  (operations.filterMap predicates?).flatten

def allJoins (operations : List Operation) : List DatasetJoin :=
  operations.filterMap join?

/-- What is seen of the last operation that shows anything. -/
def latest? {α : Type} (view : Operation → Option α) (operations : List Operation) : Option α :=
  (operations.filterMap view).getLast?

/-- Two lists of operations that a plan cannot tell apart. -/
structure Alike (first second : List Operation) : Prop where
  predicates : allPredicates first = allPredicates second
  joins : allJoins first = allJoins second
  orders : latest? orders? first = latest? orders? second
  grouping : latest? grouping? first = latest? grouping? second
  columns : latest? columns? first = latest? columns? second
  limit : latest? limit? first = latest? limit? second
  offset : latest? offset? first = latest? offset? second

/-- The view shows nothing of operations of other kinds. -/
def Sees {α : Type} (view : Operation → Option α) (seen : Kind) : Prop :=
  ∀ operation : Operation, operation.kind ≠ seen → view operation = none

section
variable {α : Type} {view : Operation → Option α} {operations before after : List Operation}
  {operation : Operation} {seen : Kind}

/-- Each of the views is one of a kind. -/
theorem sees_views : Sees predicates? .filter ∧ Sees join? .join ∧ Sees orders? .sort ∧
    Sees grouping? .group ∧ Sees columns? .select ∧ Sees limit? .limit ∧ Sees offset? .offset := by
  refine ⟨?_, ?_, ?_, ?_, ?_, ?_, ?_⟩
  all_goals
    intro operation h
    cases operation <;>
      simp_all [kind, predicates?, join?, orders?, grouping?, columns?, limit?, offset?]

/-- What a view shows is settled by the operations of its kind. -/
theorem filterMap_filter_kind (h : Sees view seen) (operations : List Operation) :
    (operations.filter (·.kind = seen)).filterMap view = operations.filterMap view := by
  induction operations with
  | nil => rfl
  | cons operation rest ih =>
    by_cases hkind : operation.kind = seen
    · rw [List.filter_cons_of_pos (by simpa using hkind), List.filterMap_cons, List.filterMap_cons, ih]
    · rw [List.filter_cons_of_neg (by simpa using hkind), ih, List.filterMap_cons_none (h operation hkind)]

theorem latest?_eq_none : latest? view operations = none ↔ ∀ operation ∈ operations, view operation = none := by
  rw [latest?, List.getLast?_eq_none_iff, List.filterMap_eq_nil_iff]

/-- When a view shows the content of the operations of one form, it shows something as soon as there is one
of them. -/
theorem latest?_ne_none {make : α → Operation} (hmake : ∀ operation a, view operation = some a ↔ operation = make a) :
    latest? view operations ≠ none ↔ ∃ a, make a ∈ operations := by
  rw [Ne, latest?_eq_none]
  constructor
  · intro h
    obtain ⟨operation, hmem, hseen⟩ : ∃ operation ∈ operations, view operation ≠ none := by
      simpa using h
    obtain ⟨a, ha⟩ := Option.ne_none_iff_exists'.mp hseen
    rw [(hmake operation a).mp ha] at hmem
    exact ⟨a, hmem⟩
  · rintro ⟨a, hmem⟩ hnone
    have hsome := (hmake (make a) a).mpr rfl
    rw [hnone (make a) hmem] at hsome
    cases hsome

theorem limit?_eq_some (operation : Operation) (count : Value) :
    limit? operation = some count ↔ operation = .limit count := by
  cases operation <;> simp [limit?]

theorem offset?_eq_some (operation : Operation) (count : Value) :
    offset? operation = some count ↔ operation = .offset count := by
  cases operation <;> simp [offset?]

/-- What is seen latest is seen of an operation behind which nothing more is. -/
theorem latest?_eq_some {a : α} (h : latest? view operations = some a) :
    ∃ earlier operation later, operations = earlier ++ operation :: later ∧ view operation = some a ∧
      ∀ other ∈ later, view other = none := by
  obtain ⟨front, hfront⟩ := List.getLast?_eq_some_iff.mp h
  obtain ⟨earlier, rest, rfl, -, hrest⟩ := List.filterMap_eq_append_iff.mp hfront
  obtain ⟨skipped, operation, later, rfl, -, hoperation, hlater⟩ := List.filterMap_eq_cons_iff.mp hrest
  refine ⟨earlier ++ skipped, operation, later, by simp, hoperation, ?_⟩
  exact List.filterMap_eq_nil_iff.mp hlater

theorem filterMap_insert (h : view operation = none) :
    (before ++ operation :: after).filterMap view = (before ++ after).filterMap view := by
  rw [List.filterMap_append, List.filterMap_append, List.filterMap_cons_none h]

end

/-- Operations of different kinds may be mixed in any way: it is enough that those of each kind are the
same ones in the same order. -/
theorem alike_of_kinds {first second : List Operation}
    (h : ∀ seen : Kind, first.filter (·.kind = seen) = second.filter (·.kind = seen)) :
    Alike first second := by
  have hview : ∀ {α : Type} {view : Operation → Option α} {seen : Kind}, Sees view seen →
      first.filterMap view = second.filterMap view := by
    intro α view seen hsees
    rw [← filterMap_filter_kind hsees first, h, filterMap_filter_kind hsees]
  obtain ⟨hpredicates, hjoins, horders, hgrouping, hcolumns, hlimit, hoffset⟩ := sees_views
  exact {
    predicates := congrArg List.flatten (hview hpredicates)
    joins := hview hjoins
    orders := congrArg List.getLast? (hview horders)
    grouping := congrArg List.getLast? (hview hgrouping)
    columns := congrArg List.getLast? (hview hcolumns)
    limit := congrArg List.getLast? (hview hlimit)
    offset := congrArg List.getLast? (hview hoffset) }

/-- Operations of which each is of a kind of its own may be asked for in any order. -/
theorem alike_of_perm {first second : List Operation} (h : first.Perm second)
    (hkinds : (first.map kind).Nodup) : Alike first second := by
  apply alike_of_kinds
  intro seen
  have hone : (first.filter (·.kind = seen)).length ≤ 1 := by
    have hsame : (first.filter (·.kind = seen)).map kind =
        List.replicate (first.filter (·.kind = seen)).length seen := by
      rw [List.eq_replicate_iff]
      refine ⟨List.length_map _, ?_⟩
      intro other hother
      obtain ⟨operation, hmem, rfl⟩ := List.mem_map.mp hother
      simpa using (List.mem_filter.mp hmem).2
    have hnodup : ((first.filter (·.kind = seen)).map kind).Nodup :=
      hkinds.sublist (List.filter_sublist.map kind)
    rwa [hsame, List.nodup_replicate] at hnodup
  have hperm := h.filter (·.kind = seen)
  rcases Nat.le_one_iff_eq_zero_or_eq_one.mp hone with hempty | hsingle
  · rw [List.length_eq_zero_iff.mp hempty, List.nil_perm] at hperm
    rw [List.length_eq_zero_iff.mp hempty, hperm]
  · obtain ⟨operation, hfound⟩ := List.length_eq_one_iff.mp hsingle
    rw [hfound, List.singleton_perm] at hperm
    rw [hfound, hperm]

/-- Neighbours of different kinds may change places. -/
theorem alike_swap (before after : List Operation) {first second : Operation}
    (h : first.kind ≠ second.kind) :
    Alike (before ++ first :: second :: after) (before ++ second :: first :: after) := by
  apply alike_of_kinds
  intro seen
  rw [List.filter_append, List.filter_append]
  congr 1
  by_cases hfirst : first.kind = seen
  · have hsecond : second.kind ≠ seen := fun hsecond => h (hfirst.trans hsecond.symm)
    simp [hfirst, hsecond]
  · simp [List.filter_cons, hfirst]

/-- A filter that asks for nothing may stand anywhere. -/
theorem alike_insert_empty (before after : List Operation) :
    Alike (before ++ .filter [] :: after) (before ++ after) where
  predicates := by simp [allPredicates, predicates?]
  joins := filterMap_insert rfl
  orders := congrArg List.getLast? (filterMap_insert rfl)
  grouping := congrArg List.getLast? (filterMap_insert rfl)
  columns := congrArg List.getLast? (filterMap_insert rfl)
  limit := congrArg List.getLast? (filterMap_insert rfl)
  offset := congrArg List.getLast? (filterMap_insert rfl)

end Operation

namespace Plan

open Operation

/-- A plan is made of the views of its operations. -/
theorem ofOperations_eq (operations : List Operation) :
    ofOperations operations =
      { filters := allPredicates operations
        orders := (latest? orders? operations).getD []
        joins := allJoins operations
        grouping := latest? grouping? operations
        selection := latest? columns? operations
        limit := (latest? limit? operations).bind count?
        offset := (latest? offset? operations).bind count? } := by
  induction operations using List.reverseRecOn with
  | nil => rfl
  | append_singleton operations operation ih =>
    have hstep : ofOperations (operations ++ [operation]) = (ofOperations operations).add operation := by
      simp [ofOperations]
    rw [hstep, ih]
    cases operation <;>
      simp [add, latest?, allPredicates, allJoins, predicates?, join?, orders?, grouping?, columns?, limit?, offset?]

/-- The grouping of a plan is that of one operation, the last one that groups. -/
theorem grouping_ofOperations {operations : List Operation} {grouping : Grouping}
    (h : (ofOperations operations).grouping = some grouping) :
    ∃ earlier later, operations = earlier ++ .group grouping :: later ∧
      ∀ operation ∈ later, operation.kind ≠ .group := by
  rw [ofOperations_eq] at h
  obtain ⟨earlier, operation, later, rfl, hoperation, hlater⟩ := latest?_eq_some h
  obtain rfl : operation = .group grouping := by
    cases operation <;> simp_all [grouping?]
  refine ⟨earlier, later, rfl, ?_⟩
  intro other hmem
  have hnone := hlater other hmem
  cases other <;> simp_all [grouping?, kind]

theorem ofOperations_congr {first second : List Operation} (h : Alike first second) :
    ofOperations first = ofOperations second := by
  rw [ofOperations_eq, ofOperations_eq, h.predicates, h.joins, h.orders, h.grouping, h.columns, h.limit,
    h.offset]

end Plan
end Insights
