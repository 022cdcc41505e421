import SavingsCircle.Http.Reply
import SavingsCircle.Token

/-!
# Authentication

A request is authenticated by the header `Bearer` followed by a blank and a token.
-/

namespace SavingsCircle.Http

/-- The token of an authorization header, and the empty text if it holds none. -/
def bearerToken (header : Option String) : String :=
  match (header.getD "").toList with
  | 'B' :: 'e' :: 'a' :: 'r' :: 'e' :: 'r' :: ' ' :: token => String.ofList token
  | _ => ""

def demandProof {α : Type} (proof : Option α) : Except Failure α :=
  demandSome proof (.request 401 "UNAUTHORIZED" "Authentication is required.")

/-- The proof that the authorization header of a request gives. -/
def authenticate (authority : Authority) (header : Option String) : Except Failure Proof := do
  let token := bearerToken header
  demand (token ≠ "") (.request 401 "UNAUTHORIZED" "Missing Bearer token.")
  demandSome (authority.parse? token)
    (.request 401 "UNAUTHORIZED" "Bearer token is not valid.")

/-- The proof of a second signer, whose token stands in the body of a request. -/
def counterparty (authority : Authority) (token : String) : Except Failure Proof :=
  demandSome (authority.parse? token)
    (.request 401 "UNAUTHORIZED" "Counterparty token is not valid.")

end SavingsCircle.Http
