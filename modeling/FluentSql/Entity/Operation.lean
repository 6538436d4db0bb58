import FluentSql.Entity
/-!
Operations of an entity as data.

An operation is some work in the open database of the entity (`Operation.work`) under a cover: the database is named and
opened before, closed afterwards unless it was open, and an error is reported and answered by false. Without the cover
the error leaves the operation (`Operation.bare`).
-/

namespace FluentSql

/-- puts a unit together by chained steps and runs it -/
def Session.runSteps {W H P : Type} [Reporting W] (b : Backend W H P) (steps : List Step) :
    Task (Session H P × W) Outcome := do
  steps.forM Session.chain
  Session.run b

namespace Entity

/-- anything that can be asked of an entity -/
inductive Operation where
  | createSchema (dropFirst : Bool)
  | create (r : Record)
  | update (id : Int64) (r : Record)
  | delete (id : Int64)
  | deleteWhere (field : String) (v : Value)
  | deleteMatching (r : Record)
  | hasItems

variable {W H P α : Type} [Reporting W]

/-- names and opens the database of the entity, and then acts -/
def afterEntering (b : Backend W H P) (action : Task (Entity × Session H P × W) α) :
    Task (Entity × Session H P × W) α := do
  let e ← Task.read Prod.fst
  inSession (enter b e)
  action

/-- runs one unit of work and judges its outcome -/
def judgeUnit (b : Backend W H P) (judge : Outcome → Bool) (steps : Entity → List Step) :
    Task (Entity × Session H P × W) Bool := do
  let e ← Task.read Prod.fst
  let outcome ← inSession (Session.runSteps b (steps e))
  pure (judge outcome)

namespace Operation

def perform (b : Backend W H P) : Operation → Task (Entity × Session H P × W) Bool
  | createSchema dropFirst => Entity.createSchema b dropFirst
  | create r => Entity.create b r
  | update id r => Entity.update b id r
  | delete id => Entity.delete b id
  | deleteWhere field v => Entity.deleteWhere b field v
  | deleteMatching r => Entity.deleteMatching b r
  | hasItems => Entity.hasItems b

/-- what a failed operation is called in its report -/
def label : Operation → String
  | createSchema _ => "create schema"
  | create _ => "create"
  | update _ _ => "update"
  | delete _ => "delete"
  | deleteWhere _ _ => "delete"
  | deleteMatching _ => "delete"
  | hasItems => "has items"

/-- what is done in the open database, and what it means -/
def work (b : Backend W H P) : Operation → Task (Entity × Session H P × W) Bool
  | createSchema dropFirst =>
    onSchema (if dropFirst then Session.createNewTable b else Session.createTable b)
  | create r => do
    let e ← Task.read Prod.fst
    let id ← inSession (insertRow b e.table r)
    Task.change fun p => ({ p.1 with lastCreatedId := id }, p.2)
    pure (decide (0 < id))
  | update id r =>
    judgeUnit b (fun o => affectedAny (some o)) fun e =>
      [.update e.table, .values r, .compare .equals idColumn (.integer id)]
  | delete id =>
    judgeUnit b (fun o => affectedAny (some o)) fun e =>
      [.deleteFrom e.table, .compare .equals idColumn (.integer id)]
  | deleteWhere field v =>
    judgeUnit b (fun o => affectedAny (some o)) fun e => [.deleteFrom e.table, .compare .equals field v]
  | deleteMatching r =>
    if r.isEmpty then Task.fail (.validation .emptyMatch)
    else judgeUnit b (fun o => affectedAny (some o)) fun e => .deleteFrom e.table :: matchSteps r.cells
  | hasItems =>
    judgeUnit b (fun o => o.records?.any fun rs => !rs.isEmpty) fun e =>
      [.get [idColumn], .fromTable e.table, .limit 1]

/-- an operation without its cover: an error leaves it, and nothing is closed -/
def bare (b : Backend W H P) (op : Operation) : Task (Entity × Session H P × W) Bool :=
  afterEntering b (op.work b)

end Operation

end Entity

end FluentSql
