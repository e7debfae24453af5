import DiceTower.Play
import DiceTower.Value

/-!
# Scenes

While a request is carried out, fields are bound that mark whatever is reported in the meantime. A
`Scene` is the state of a source together with the fields that are bound. `Play.binding` binds
fields for the time of a computation: however it ends, they are bound no longer when it is over,
and fields of the same names that they have hidden are back.

Sources know nothing of what is bound (`Source.inScene`), and so it is noted with each event that
is reported (`Play.report`).
-/

namespace DiceTower

/-- The state of a source, and the fields that are bound. -/
structure Scene (σ : Type) where
  state : σ
  bound : Record Value

/-- The source in a scene. -/
def Source.inScene {σ : Type} (source : Source σ) : Source (Scene σ) where
  name := source.name
  die scene low high :=
    let (rolled, state) := source.die scene.state low high
    (rolled, { scene with state })
  sample scene population size :=
    let (drawn, state) := source.sample scene.state population size
    (drawn, { scene with state })

/-- What is bound when some fields are bound no longer: of what is bound by then, all but their
names, and under these what had been bound before. -/
def Record.released (fields before after : Record Value) : Record Value :=
  let names := fields.map Prod.fst
  putAll (names.foldl erase after) (before.only names)

/-- Binds fields for the time of a computation. -/
def Play.binding {σ α : Type} (fields : Record Value) (play : Play (Scene σ) α) :
    Play (Scene σ) α :=
  fun scene =>
    let ran := play { scene with bound := scene.bound.putAll fields }
    { ran with
      source :=
        { ran.source with bound := Record.released fields scene.bound ran.source.bound } }

end DiceTower
