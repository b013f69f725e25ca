import Salutation.Main
import Salutation.Payload.Conversion
import Salutation.Stream.Session
import Salutation.Stream.Shelf
import Salutation.Proofs.Located
import Salutation.Proofs.Payload.Others
import Salutation.Proofs.Program.Deadlines
import Salutation.Proofs.Program.Decoding
import Salutation.Proofs.Program.Diagnostics
import Salutation.Proofs.Program.Gate
import Salutation.Proofs.Program.LineFeeds
import Salutation.Proofs.Stream.Exchange
import Salutation.Proofs.Stream.Extension
import Salutation.Proofs.Stream.Session
import Salutation.Proofs.Stream.Shelf
import Salutation.Proofs.Addressee.Delivery
import Salutation.Proofs.Addressee.Timeouts
