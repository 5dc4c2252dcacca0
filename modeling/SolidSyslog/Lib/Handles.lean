import SolidSyslog.Lib.Trace
import Mathlib.Data.List.Nodup
import Mathlib.Data.List.Perm.Basic

/-!
# Handles that are obtained, used and released

An entry of a trace may obtain a handle, may use one and may release one. `Ledger H held t` says
that every entry of `t` that uses a handle uses one obtained before and not released since, that no
handle is obtained twice, and that the handles obtained are those `held` and those released.
-/

namespace SolidSyslog.Lib

/-- What an entry of a trace does with handles. A use may be of no handle at all. -/
structure Handling (Entry Handle : Type) where
  obtains : Entry → Option Handle
  uses : Entry → Option (Option Handle)
  releases : Entry → Option Handle

variable {Entry Handle : Type} {H : Handling Entry Handle} {held : List Handle} {t : List Entry}
  {entry : Entry} {handle : Handle}

namespace Handling

variable (H)

/-- The handles obtained in a trace. -/
def obtained (t : List Entry) : List Handle :=
  t.filterMap H.obtains

/-- The handles released in a trace. -/
def released (t : List Entry) : List Handle :=
  t.filterMap H.releases

/-- A handle used is one obtained before and not released since. -/
def UsesLive (before : List Entry) (entry : Entry) : Prop :=
  ∀ used, H.uses entry = some used →
    ∃ handle, used = some handle ∧ handle ∈ H.obtained before ∧ handle ∉ H.released before

variable {H}

theorem obtained_concat (t : List Entry) (entry : Entry) :
    H.obtained (t ++ [entry]) = H.obtained t ++ (H.obtains entry).toList := by
  cases h : H.obtains entry <;> simp [obtained, h]

theorem released_concat (t : List Entry) (entry : Entry) :
    H.released (t ++ [entry]) = H.released t ++ (H.releases entry).toList := by
  cases h : H.releases entry <;> simp [released, h]

end Handling

open Handling

/-- The handles obtained in a trace are used while they are held, and released once. -/
structure Ledger (H : Handling Entry Handle) (held : List Handle) (t : List Entry) : Prop where
  usesLive : Always H.UsesLive t
  distinct : (H.obtained t).Nodup
  balance : (H.obtained t).Perm (held ++ H.released t)

namespace Ledger

theorem nil : Ledger H [] [] :=
  ⟨Always.nil, List.nodup_nil, List.Perm.nil⟩

theorem nodup_balance (h : Ledger H held t) : (held ++ H.released t).Nodup :=
  h.balance.nodup_iff.1 h.distinct

/-- No handle is released twice. -/
theorem released_nodup (h : Ledger H held t) : (H.released t).Nodup :=
  (List.nodup_append.1 h.nodup_balance).2.1

theorem mem_obtained (h : Ledger H held t) (hheld : handle ∈ held) : handle ∈ H.obtained t :=
  h.balance.mem_iff.2 (List.mem_append_left _ hheld)

theorem not_mem_released (h : Ledger H held t) (hheld : handle ∈ held) : handle ∉ H.released t := by
  intro hreleased
  obtain ⟨-, -, hdisjoint⟩ := List.nodup_append.1 h.nodup_balance
  exact hdisjoint handle hheld handle hreleased rfl

/-- A handle obtained is held or was released. -/
theorem held_or_released (h : Ledger H held t) (hmem : handle ∈ H.obtained t) :
    handle ∈ held ∨ handle ∈ H.released t :=
  List.mem_append.1 (h.balance.mem_iff.1 hmem)

/-- An entry uses a handle that is held, or none. -/
theorem live (h : Ledger H held t) (huses : ∀ used, H.uses entry = some used →
    ∃ handle ∈ held, used = some handle) : Always H.UsesLive (t ++ [entry]) := by
  apply h.usesLive.concat
  intro used hused
  obtain ⟨handle, hheld, rfl⟩ := huses used hused
  exact ⟨handle, rfl, h.mem_obtained hheld, h.not_mem_released hheld⟩

/-- An entry that obtains and releases nothing. -/
theorem use (h : Ledger H held t) (huses : ∀ used, H.uses entry = some used →
    ∃ handle ∈ held, used = some handle) (hobtains : H.obtains entry = none)
    (hreleases : H.releases entry = none) : Ledger H held (t ++ [entry]) := by
  refine ⟨h.live huses, ?_, ?_⟩
  · rw [obtained_concat, hobtains]
    simpa using h.distinct
  · rw [obtained_concat, released_concat, hobtains, hreleases]
    simpa using h.balance

/-- An entry that obtains a new handle. -/
theorem obtain (h : Ledger H held t) (huses : H.uses entry = none)
    (hobtains : H.obtains entry = some handle) (hnew : handle ∉ H.obtained t)
    (hreleases : H.releases entry = none) : Ledger H (handle :: held) (t ++ [entry]) := by
  refine ⟨h.live fun used hused => ?_, ?_, ?_⟩
  · rw [huses] at hused
    cases hused
  · rw [obtained_concat, hobtains]
    simpa [List.nodup_append] using ⟨h.distinct, fun other hother heq => hnew (heq ▸ hother)⟩
  · rw [obtained_concat, released_concat, hobtains, hreleases]
    have hmove := List.perm_append_singleton handle (H.obtained t)
    simpa using hmove.trans (h.balance.cons handle)

/-- An entry that releases a handle held. -/
theorem release (h : Ledger H (handle :: held) t) (huses : ∀ used, H.uses entry = some used →
    used = some handle) (hobtains : H.obtains entry = none)
    (hreleases : H.releases entry = some handle) : Ledger H held (t ++ [entry]) := by
  refine ⟨h.live fun used hused => ⟨handle, List.mem_cons_self, huses used hused⟩, ?_, ?_⟩
  · rw [obtained_concat, hobtains]
    simpa using h.distinct
  · rw [obtained_concat, released_concat, hobtains, hreleases]
    have hmove := List.perm_append_singleton handle (held ++ H.released t)
    simpa using h.balance.trans hmove.symm

end Ledger

end SolidSyslog.Lib
