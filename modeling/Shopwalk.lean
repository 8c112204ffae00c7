import Shopwalk.Launch
import Shopwalk.Main
import Shopwalk.PageName
import Shopwalk.Proofs.CartTotal
import Shopwalk.Proofs.PaymentPassed
import Shopwalk.Proofs.Routing
import Shopwalk.Scenario
import Shopwalk.Shop.Settings
import Shopwalk.Proofs.Looking
import Shopwalk.Proofs.Offers
import Shopwalk.Proofs.Additions
import Shopwalk.Proofs.SessionData
import Shopwalk.Proofs.UrlWord
import Shopwalk.Proofs.CartItems
import Shopwalk.Proofs.TripToCart
import Shopwalk.Proofs.CartNames
import Shopwalk.Proofs.ExitStatus
import Shopwalk.Proofs.Operations
import Shopwalk.Proofs.EvidencePlace
import Shopwalk.Proofs.FailuresTold
import Shopwalk.Proofs.FaultsReported
import Shopwalk.Proofs.Reading
import Shopwalk.Proofs.Success
import Shopwalk.Proofs.SuccessNoted
import Shopwalk.Proofs.ItemsChecked
import Shopwalk.Proofs.NormalName
import Shopwalk.Proofs.Lowercase
import Shopwalk.Proofs.Separators
import Shopwalk.Proofs.Temperature
import Shopwalk.Proofs.FoundAgain
import Shopwalk.Proofs.FirstNumber
import Shopwalk.Proofs.Cheapest
import Shopwalk.Proofs.Told
import Shopwalk.Proofs.Listing
import Shopwalk.Proofs.CartListing
import Shopwalk.Proofs.ItemsFound
import Shopwalk.Proofs.Choice
import Shopwalk.Proofs.Selection
import Shopwalk.Proofs.Capture
import Shopwalk.Proofs.CountedAdditions
import Shopwalk.Proofs.AdditionTold
import Shopwalk.Proofs.PatternGroups
import Shopwalk.Proofs.PatternInContext
import Shopwalk.Proofs.PatternWrapped
import Shopwalk.Proofs.PatternAlternatives
import Shopwalk.Proofs.UrlPattern
