import InventoryHero.Batches.UnitCost
import InventoryHero.Reversal.Bulk
import InventoryHero.Reversal.Restoring
import InventoryHero.Commuting.Orders
import InventoryHero.Concurrent.Answers
import InventoryHero.Concurrent.Records
import InventoryHero.Concurrent.Reversal
import InventoryHero.Concurrent.Solvency
import InventoryHero.Concurrent.Stock
import InventoryHero.Accounts.Interleaved
import InventoryHero.Access.Refresh
import InventoryHero.Access.Roles
import InventoryHero.Access.Sessions
import InventoryHero.Passwords.Causes
import InventoryHero.Passwords.Reset
import InventoryHero.Answers.Accounts
import InventoryHero.Edits.Plain
import InventoryHero.Removal.Additions
import InventoryHero.Removal.Images
import InventoryHero.Reports.Reconciled
import InventoryHero.Retries.Edits
import InventoryHero.Sales.Expiry
import InventoryHero.Sales.Lowering
import InventoryHero.Sales.Snapshots
import InventoryHero.Web.Access
import InventoryHero.Web.Confidential
