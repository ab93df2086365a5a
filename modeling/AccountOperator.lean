import AccountOperator.Account
import AccountOperator.World
import AccountOperator.Client
import AccountOperator.Sts
import AccountOperator.Organizations
import AccountOperator.Reconcile
import AccountOperator.Writes
import AccountOperator.Deletion
import AccountOperator.Reporting
import AccountOperator.Runs
import AccountOperator.Metadata
import AccountOperator.Progress
import AccountOperator.Tagging
