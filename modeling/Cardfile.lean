import Cardfile.Main
import Cardfile.Proofs.Command.Tables
import Cardfile.Proofs.Desk.Cardless
import Cardfile.Proofs.Desk.Circle
import Cardfile.Proofs.Desk.CurrentField
import Cardfile.Proofs.Desk.DirectEdits
import Cardfile.Proofs.Desk.FirstMatch
import Cardfile.Proofs.Desk.Numbering
import Cardfile.Proofs.Desk.Recents
import Cardfile.Proofs.Desk.Remembering
import Cardfile.Proofs.Desk.Respelling
import Cardfile.Proofs.Desk.Setting
import Cardfile.Proofs.MessageBox.Resuming
import Cardfile.Proofs.Report.Listing
import Cardfile.Proofs.Service.Hub
import Cardfile.Proofs.Service.Passing
import Cardfile.Proofs.Service.Relay
import Cardfile.Proofs.Session.RecentCards
import Cardfile.Proofs.Snapshot.Overwriting
import Cardfile.Proofs.Store.Contention
import Cardfile.Service.Target
import Cardfile.Store.Address
