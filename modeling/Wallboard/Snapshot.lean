import Wallboard.Keyed
import Wallboard.Number.Binary64
import Wallboard.Text.Basic

namespace Wallboard

inductive Gas
  | oxygen
  | hydrogen
  deriving DecidableEq

namespace Gas

def symbol : Gas → Text
  | oxygen => "O2".toList
  | hydrogen => "H2".toList

def ofSymbol? (symbol : Text) : Option Gas :=
  if symbol = oxygen.symbol then some oxygen
  else if symbol = hydrogen.symbol then some hydrogen
  else none

theorem ofSymbol?_eq_some_iff {symbol : Text} {gas : Gas} :
    ofSymbol? symbol = some gas ↔ symbol = gas.symbol := by
  have differ : oxygen.symbol ≠ hydrogen.symbol := by decide
  cases gas <;> unfold ofSymbol? <;> split <;> (try split) <;> simp_all

end Gas

/-- The level of all tanks of one gas together. -/
structure Tank where
  current : Int
  capacity : Int
  deriving DecidableEq

inductive Axis
  | x
  | y
  | z
  deriving DecidableEq

namespace Axis

def symbol : Axis → Text
  | x => "X".toList
  | y => "Y".toList
  | z => "Z".toList

def ofSymbol? (symbol : Text) : Option Axis :=
  if symbol = x.symbol then some x
  else if symbol = y.symbol then some y
  else if symbol = z.symbol then some z
  else none

end Axis

structure Position where
  x : Binary64 := .zero
  y : Binary64 := .zero
  z : Binary64 := .zero
  deriving DecidableEq

def Position.along (position : Position) : Axis → Binary64
  | .x => position.x
  | .y => position.y
  | .z => position.z

def Position.isFinite (position : Position) : Bool :=
  position.x.isFinite && position.y.isFinite && position.z.isFinite

structure Snapshot where
  quantities : List (Text × Int) := []
  totalMassKg : Int := 0
  powerRaw : Int := 0
  position : Position := {}
  gas : List (Gas × Tank) := []
  deriving DecidableEq

def Snapshot.quantity? (snapshot : Snapshot) (key : Text) : Option Int :=
  Keyed.find? key snapshot.quantities

def Snapshot.tank? (snapshot : Snapshot) (gas : Gas) : Option Tank :=
  Keyed.find? gas snapshot.gas

end Wallboard
