/-!
# Schedules

Several sources are compiled at the same time. They share nothing but what they are fetched from, and so
what matters is the order in which they end: a schedule takes each of them as a whole and says which one
is next.
-/

namespace Blocklist

/-- How many sources are under way at the same time, at least one, and the place of the one among them that
ends first when a number of others is left. -/
structure Schedule where
  limit : Nat
  turns : Nat → Nat

namespace Schedule

variable {α : Type}

/-- The place of the next one, where `left` others are left. Only the first ones are under way. -/
def next (s : Schedule) (left : Nat) : Nat := s.turns left % min (max 1 s.limit) (left + 1)

/-- The first `count` items in the order in which they end. -/
def orderFrom (s : Schedule) : (count : Nat) → List α → List α
  | 0, _ => []
  | left + 1, items =>
    match items[s.next left]? with
    | some a => a :: s.orderFrom left (items.eraseIdx (s.next left))
    | none => []

/-- The items in the order in which they end, each with its place among them. -/
def order (s : Schedule) (items : List α) : List (α × Nat) := s.orderFrom items.length items.zipIdx

/-- What has become of the items, put back in their places. -/
def arrange (done : List (Nat × α)) : List α := (List.range done.length).filterMap fun i => done.lookup i

end Schedule
end Blocklist
