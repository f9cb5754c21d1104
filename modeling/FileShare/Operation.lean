import FileShare.Nodes

/-! # Operations

All that a client can ask for, as one type, and the step that an operation makes on the world.
-/
namespace FileShare

inductive Operation where
  | listUsers (after : Json)
  | getUser (username : String)
  | createUser (body : Json)
  | updateUser (username : String) (body : Json)
  | deleteUser (username : String)
  | authenticate (username : String) (key : Json)
  | getNodes (username : String) (ids : List Json)
  | searchNodes (username : String) (after equality patterns : Json)
  | createNode (username : String) (body : Json)
  | updateNode (username : String) (id body : Json)
  | deleteNodes (username : String) (ids : List Json)
deriving Repr

inductive Reply where
  | done
  | user (u : PublicUser)
  | users (us : List PublicUser)
  | node (n : Node)
  | nodes (ns : List Node)
  | answer (b : Bool)
deriving Repr

def Reply.toJson : Reply → Json
  | done => .null
  | user u => u.toJson
  | users us => .arr (us.map PublicUser.toJson)
  | node n => n.toJson
  | nodes ns => .arr (ns.map Node.toJson)
  | answer b => .bool b

namespace Operation

/-- An operation that only reads leaves the world as it is. -/
def reading (w : World) (reply : α → Reply) (result : Except Failure α) :
    Except Failure Reply × World :=
  (result.map reply, w)

/-- A change that fails leaves the store as it is. -/
def writing (w : World) : Except Failure Store → Except Failure Reply × World
  | .ok store => (.ok .done, { w with store })
  | .error e => (.error e, w)

def run (limits : Settings) (now : Instant) (w : World) :
    Operation → Except Failure Reply × World
  | listUsers after => reading w .users (Accounts.list limits after w.store)
  | getUser username => reading w .user (Accounts.get w.store username)
  | createUser body =>
    let (result, w') := Accounts.create limits now body w
    (result.map .user, w')
  | updateUser username body => writing w (Accounts.update limits username body w.store)
  | deleteUser username => writing w (Accounts.delete username w.store)
  | authenticate username key =>
    reading w .answer (Accounts.authenticate w.store username key)
  | getNodes username ids => reading w .nodes (Nodes.get limits username ids w.store)
  | searchNodes username after equality patterns =>
    reading w .nodes (Nodes.search limits username after equality patterns w.store)
  | createNode username body =>
    let (result, w') := Nodes.create limits now username body w
    (result.map .node, w')
  | updateNode username id body => writing w (Nodes.update limits now username id body w.store)
  | deleteNodes username ids => writing w (Nodes.delete limits username ids w.store)

end Operation
end FileShare
