/-
  VisualNovel.Time.Instant

  Points in time to the nanosecond, as date and time of day at offset zero. A
  leap second is the last second of some minute with a nanosecond count of a
  full second or more. Instants are compared by `rank`, a number that grows with
  every field in turn; `rank_injective` says that it loses nothing.
-/

import VisualNovel.Time.Calendar

namespace VisualNovel.Time

/-- A second of the day and a nanosecond count that fit together. -/
abbrev IsTimeOfDay (second nano : Nat) : Prop :=
  second < 86400 ∧ nano < 2000000000 ∧ (1000000000 ≤ nano → second % 60 = 59)

/-- A point in time. -/
structure Instant where
  date : Date
  /-- Second of the day; a leap second counts as the one before it. -/
  second : Nat
  /-- Nanosecond of the second; from 1000000000 on within a leap second. -/
  nano : Nat
  isTimeOfDay : IsTimeOfDay second nano
  deriving DecidableEq

namespace Instant

/-- The instant at a date and time of day, if the time exists. -/
def of? (date : Date) (second nano : Nat) : Option Instant :=
  if h : IsTimeOfDay second nano then some ⟨date, second, nano, h⟩ else none

@[simp] theorem of?_self (t : Instant) : of? t.date t.second t.nano = some t :=
  dif_pos t.isTimeOfDay

/-- The instant at a local date and time of day, `offset` seconds ahead of offset zero. -/
def atOffset? (date : Date) (second nano : Nat) (offset : Int) : Option Instant :=
  let s : Int := second - offset
  if s < 0 then date.previous?.bind fun date => of? date (s + 86400).toNat nano
  else if s < 86400 then of? date s.toNat nano
  else date.next?.bind fun date => of? date (s - 86400).toNat nano

/-- A number that orders instants. -/
def rank (t : Instant) : Int :=
  (((t.date.year * 12 + t.date.month) * 32 + t.date.day) * 86400 + t.second) * 2000000000 + t.nano

theorem rank_injective {s t : Instant} (h : s.rank = t.rank) : s = t := by
  obtain ⟨⟨y, m, d, hy⟩, sec, n, hs⟩ := s
  obtain ⟨⟨y', m', d', hy'⟩, sec', n', hs'⟩ := t
  have h1 := daysInMonth_le y m
  have h2 := daysInMonth_le y' m'
  have ⟨_, _, hm1, hm2, hd1, hd2⟩ := hy
  have ⟨_, _, hm1', hm2', hd1', hd2'⟩ := hy'
  simp only [rank] at h
  have : n = n' := by omega
  have : sec = sec' := by omega
  have : d = d' := by omega
  have : m = m' := by omega
  have : y = y' := by omega
  subst_vars
  rfl

/-- The earlier of two instants. -/
def earlier (s t : Instant) : Instant :=
  if s.rank ≤ t.rank then s else t

@[simp] theorem rank_earlier (s t : Instant) : (s.earlier t).rank = min s.rank t.rank := by
  unfold earlier
  split <;> omega

/-- The instant a number of nanoseconds after the first moment of 1970. -/
def ofNanoseconds? (nanoseconds : Int) : Option Instant :=
  let seconds := nanoseconds / 1000000000
  (Date.ofDayNumber? (seconds / 86400)).bind fun date =>
    of? date (seconds % 86400).toNat (nanoseconds % 1000000000).toNat

end Instant

end VisualNovel.Time
