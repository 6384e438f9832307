import SellerSync.Order.Incoming
import SellerSync.Marketplace
import SellerSync.Uuid
/-!
Customers of a seller, and links from a marketplace's customer ids to them. A customer collects
every distinct address that orders brought for it.
-/
namespace SellerSync

structure Customer where
  id : Uuid
  sellerId : Uuid
  email : Option String
  phone : Option String
  firstName : Option String
  lastName : Option String
  addresses : List Address
  createdAt : Instant
  updatedAt : Instant
  deriving Repr, Inhabited

structure CustomerLink where
  id : Uuid
  customerId : Uuid
  accountId : Uuid
  marketplace : Marketplace
  externalId : String
  raw : Json
  syncedAt : Instant
  deriving Repr, Inhabited

/-- Contact details that match or create a customer. -/
structure CustomerCandidate where
  email : Option String := none
  phone : Option String := none
  firstName : Option String := none
  lastName : Option String := none
  address : Option Address := none
  deriving Repr, Inhabited

namespace CustomerCandidate

def ofIncoming (c : IncomingCustomer) : CustomerCandidate :=
  ⟨c.email, c.phone, c.firstName, c.lastName, c.address⟩

def sharesContact (cand : CustomerCandidate) (c : Customer) : Bool :=
  (cand.email.isSome && c.email == cand.email) || (cand.phone.isSome && c.phone == cand.phone)

end CustomerCandidate

end SellerSync
