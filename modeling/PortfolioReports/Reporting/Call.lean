import PortfolioReports.Reporting.Fetch
import PortfolioReports.Store.Access
import PortfolioReports.Store.Basic

/-!
A call is a sequence of accesses to the store, each one indivisible. Accesses of other calls may come between two
accesses of a call.
-/

namespace PortfolioReports

inductive Call (α : Type) where
  | done (result : Except Fault α)
  /-- What the access makes of the store, and how the call goes on with the store that it found. -/
  | access (kind : AccessKind) (change : Store → Store) (next : Store → Call α)
  | fetch (queries : StatementPair) (next : FetchCourse → Call α)

namespace Call

variable {α β : Type}

def bind : Call α → (α → Call β) → Call β
  | done (.ok a), k => k a
  | done (.error f), _ => done (.error f)
  | access kind change next, k => access kind change fun s => (next s).bind k
  | fetch queries next, k => fetch queries fun c => (next c).bind k

instance : Monad Call where
  pure a := done (.ok a)
  bind := bind

def attempt : Call α → Call (Except Fault α)
  | done result => done (.ok result)
  | access kind change next => access kind change fun s => (next s).attempt
  | fetch queries next => fetch queries fun c => (next c).attempt

def fail (cause : Fault) : Call α := done (.error cause)

def check (result : Except Fault α) : Call α := done result

def ofStore (r : Except StoreFault α) : Call α :=
  match r with
  | .ok a => done (.ok a)
  | .error cause => fail (.database cause)

def read (table : StoreTable) (get : Store → Except StoreFault α) : Call α :=
  access (.read table) id fun s => ofStore (get s)

def insert (put : Store → Except StoreFault Store) : Call Unit :=
  access .write (fun s => (put s).toOption.getD s) fun s => ofStore ((put s).map fun _ => ())

def change (f : Store → Store × α) : Call α := access .write (fun s => (f s).1) fun s => done (.ok (f s).2)

def fetchRows (queries : StatementPair) : Call Fetched := fetch queries fun c => done c.result

def found (missing : Missing) : Option α → Call α
  | some a => done (.ok a)
  | none => fail (.notFound missing)

def changed (missing : Missing) (wasThere : Bool) : Call Unit :=
  if wasThere then pure () else fail (.notFound missing)

def requireText (s : String) (cause : ConfigFault) : Call Unit :=
  if Text.isBlankText s then fail (.invalidConfig cause) else pure ()

/-- The call on a store that was opened in some mode: it fails at the first access that is refused. -/
def under (mode : StoreMode) : Call α → Call α
  | done result => done result
  | access kind change next =>
    match mode.refusal? kind with
    | some cause => fail (.database cause)
    | none => access kind change fun s => (next s).under mode
  | fetch queries next => fetch queries fun c => (next c).under mode

def advance : Call α → Store → Store × Call α
  | access _ change next, s => (next s).advance (change s)
  | call, s => (s, call)

def run (source : StatementPair → FetchCourse) : Call α → Store → Store × Except Fault α
  | done result, s => (s, result)
  | access _ change next, s => (next s).run source (change s)
  | fetch queries next, s => (next (source queries)).run source s

end Call

def StoreMode.after {α : Type} (mode : StoreMode) : Except Fault α → StoreMode
  | .error (.database .connectionClosed) => .lost
  | _ => mode

end PortfolioReports
