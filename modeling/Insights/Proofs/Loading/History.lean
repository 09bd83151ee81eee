import Mathlib.Data.List.Induction
import Insights.Loading.Loader

/-!
Runs of a loader, told by their events. Every state that a loader can come to is the result of events
from the empty loader, so what holds of all lists of events holds of all states. This module says when
something has happened in the course of events and has not been undone since, and collects what an
observer sees along a run.
-/

namespace Insights.Loader

/-- The loader that events have led to from the beginning. -/
abbrev reached (events : List Event) : Loader :=
  empty.run events

theorem run_reached (past events : List Event) :
    (reached past).run events = reached (past ++ events) :=
  (List.foldl_append).symm

theorem reached_append (events : List Event) (event : Event) :
    reached (events ++ [event]) = (reached events).step event := by
  simp [reached, run]

/-- At some event something happened, and no later event has undone it. -/
def Since (happens : Loader → Event → Prop) (undoes : Event → Prop) (events : List Event) : Prop :=
  ∃ before event after, events = before ++ event :: after ∧
    happens (reached before) event ∧ ∀ later ∈ after, ¬ undoes later

/-- At some event something happened. -/
def Occurred (happens : Loader → Event → Prop) (events : List Event) : Prop :=
  Since happens (fun _ => False) events

section
variable {happens : Loader → Event → Prop} {undoes : Event → Prop}

theorem not_since_nil : ¬ Since happens undoes [] := by
  rintro ⟨before, event, after, hsplit, -⟩
  simp at hsplit

/-- What holds since some event holds because of the last event, or held before it and is not undone
by it. -/
theorem since_append (events : List Event) (event : Event) :
    Since happens undoes (events ++ [event]) ↔
      happens (reached events) event ∨ (Since happens undoes events ∧ ¬ undoes event) := by
  constructor
  · rintro ⟨before, first, after, hsplit, hfirst, hafter⟩
    rcases List.eq_nil_or_concat after with rfl | ⟨rest, last, rfl⟩
    · obtain ⟨rfl, hlast⟩ := List.append_inj' hsplit rfl
      obtain rfl : event = first := by simpa using hlast
      exact Or.inl hfirst
    · have hregrouped : events ++ [event] = (before ++ first :: rest) ++ [last] := by
        simpa using hsplit
      obtain ⟨rfl, hlast⟩ := List.append_inj' hregrouped rfl
      obtain rfl : event = last := by simpa using hlast
      refine Or.inr ⟨⟨before, first, rest, rfl, hfirst, ?_⟩, hafter event (by simp)⟩
      intro later hlater
      exact hafter later (by simp [hlater])
  · rintro (hlast | ⟨⟨before, first, after, rfl, hfirst, hafter⟩, hkept⟩)
    · exact ⟨events, event, [], rfl, hlast, by simp⟩
    · refine ⟨before, first, after ++ [event], by simp, hfirst, ?_⟩
      intro later hlater
      rcases List.mem_append.mp hlater with hold | hnew
      · exact hafter later hold
      · rw [List.mem_singleton.mp hnew]
        exact hkept

theorem not_occurred_nil : ¬ Occurred happens [] :=
  not_since_nil

theorem occurred_append (events : List Event) (event : Event) :
    Occurred happens (events ++ [event]) ↔ Occurred happens events ∨ happens (reached events) event := by
  rw [Occurred, since_append, or_comm]
  simp [Occurred]

end

/-- What is seen along a run, in order, when a view shows some of what each event does. -/
def observed {α : Type} (view : Loader → Event → List α) (loader : Loader) : List Event → List α
  | [] => []
  | event :: rest => view loader event ++ observed view (loader.step event) rest

theorem observed_append {α : Type} (view : Loader → Event → List α) (loader : Loader)
    (events : List Event) (event : Event) :
    observed view loader (events ++ [event]) =
      observed view loader events ++ view (loader.run events) event := by
  induction events generalizing loader with
  | nil => simp [observed, run]
  | cons first rest ih =>
    simp only [List.cons_append, observed, ih, List.append_assoc]
    rfl

/-- The tables of an engine's catalog. -/
abbrev Catalog := List String

/-- The tables that the catalog may have after events from an empty loader, when the catalog changes
at each event only as a rule allows. -/
inductive Unfolds (rule : Loader → Catalog → Event → Catalog → Prop) (initial : Catalog) :
    List Event → Catalog → Prop where
  | start : Unfolds rule initial [] initial
  | next {events : List Event} {before after : Catalog} {event : Event} :
      Unfolds rule initial events before → rule (reached events) before event after →
        Unfolds rule initial (events ++ [event]) after

/-- A dataset in local storage. -/
def sampleDataset : Dataset :=
  ⟨"a", ⟨.local, "k"⟩, [], none, 0⟩

/-- Two callers ask for one table. The first one gives up, and the load that both have joined finds the
table absent and imports it. -/
def sharedLoad : List Event :=
  [.ensure sampleDataset, .ensure sampleDataset, .start 0, .reply 0 (.probed (.ok false)), .cancel 0,
    .reply 0 (.dropped (.ok ())), .reply 0 (.fetched (.ok (some []))), .reply 0 (.imported (.ok ())),
    .retire 0, .resume 1]

end Insights.Loader
