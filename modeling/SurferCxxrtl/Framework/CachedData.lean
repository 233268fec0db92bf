import Mathlib.Logic.Basic

namespace SurferCxxrtl

/-- A piece of data cached from Cxxrtl; prev is the last good value, kept for stale reads. -/
inductive CachedData (T : Type) where
  | uncached (prev : Option T)
  | waiting (prev : Option T)
  | filled (val : T)
  deriving DecidableEq, Repr

namespace CachedData

variable {T σ : Type}

def empty : CachedData T := uncached none

def makeUncached : CachedData T → CachedData T
  | uncached prev => uncached prev
  | waiting prev => uncached prev
  | filled prev => uncached (some prev)

def get : CachedData T → Option T
  | uncached prev => prev
  | waiting prev => prev
  | filled val => some val

/-- Run f on the outside state only from Uncached, and wait from then on; the read value
is the best one held. -/
def fetchIfNeeded (self : CachedData T) (f : σ → σ) (s : σ) : Option T × CachedData T × σ :=
  match self with
  | uncached prev => (prev, waiting prev, f s)
  | waiting prev => (prev, waiting prev, s)
  | filled val => (some val, filled val, s)

def isUncached : CachedData T → Bool
  | uncached _ => true
  | _ => false

def isWaiting : CachedData T → Bool
  | waiting _ => true
  | _ => false

def filledValue : CachedData T → Option T
  | filled val => some val
  | _ => none

@[simp] theorem get_empty : (empty : CachedData T).get=none := rfl
@[simp] theorem get_filled (t : T) : (filled t).get=some t := rfl
@[simp] theorem get_waiting (prev : Option T) : (waiting prev).get=prev := rfl
@[simp] theorem isUncached_empty : (empty : CachedData T).isUncached=true := rfl
@[simp] theorem isUncached_filled (t : T) : (filled t).isUncached=false := rfl
@[simp] theorem filledValue_filled (t : T) : (filled t).filledValue=some t := rfl
@[simp] theorem isWaiting_filled (t : T) : (filled t).isWaiting=false := rfl
@[simp] theorem filledValue_empty : (empty : CachedData T).filledValue=none := rfl

@[simp] theorem get_makeUncached (c : CachedData T) : c.makeUncached.get=c.get := by
  cases c <;> rfl

@[simp] theorem isUncached_makeUncached (c : CachedData T) : c.makeUncached.isUncached=true := by
  cases c <;> rfl

@[simp] theorem isWaiting_makeUncached (c : CachedData T) : c.makeUncached.isWaiting=false := by
  cases c <;> rfl

@[simp] theorem filledValue_makeUncached (c : CachedData T) : c.makeUncached.filledValue=none := by
  cases c <;> rfl

theorem isUncached_of_isWaiting {c : CachedData T} (h : c.isWaiting=true) : c.isUncached=false := by
  cases c <;> simp_all [isWaiting,isUncached]

/-- The one fact about fetch_if_needed every caller uses. -/
theorem fetchIfNeeded_eq (c : CachedData T) (f : σ → σ) (s : σ) :
    c.fetchIfNeeded f s=
      (c.get,if c.isUncached then waiting c.get else c,if c.isUncached then f s else s) := by
  cases c <;> rfl

@[simp] theorem fetchIfNeeded_filled (t : T) (f : σ → σ) (s : σ) :
    (filled t).fetchIfNeeded f s=(some t,filled t,s) := rfl

end CachedData

end SurferCxxrtl
