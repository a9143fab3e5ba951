import PapajBadge.Foundation.TransitionSystem
import PapajBadge.Foundation.BoundedFifo
import PapajBadge.Foundation.GregorianCalendar
import PapajBadge.BleLibrary.GapRole
import PapajBadge.BlePeriph.LinkSessions
import PapajBadge.BlePeriph.AdvertisingMode
import PapajBadge.BlePeriph.WriteStatus
import PapajBadge.BlePeriph.AttributeReads
import PapajBadge.BlePeriph.WriteLocality
import PapajBadge.BlePeriph.EventDelivery
import PapajBadge.BlePeriph.LiveLinks
import PapajBadge.BlePeriph.TaskSafety
import PapajBadge.BlePeriph.Subscriptions
import PapajBadge.BlePeriph.NotificationBuffers
import PapajBadge.Audio.Chiptune
import PapajBadge.BlePeriph.TaskProtocol
import PapajBadge.BlePeriph.Quiescence
import PapajBadge.BlePeriph.PanicFreedom
import PapajBadge.BlePeriph.PocFirmware
import PapajBadge.BlePeriph.ServiceIsolation
import PapajBadge.BlePeriph.LinkReports
import PapajBadge.BlePeriph.AttributeServer
import PapajBadge.Ch58x.Generic
import PapajBadge.Power.Sleep
import PapajBadge.Audio.ChiptuneTimer
import PapajBadge.BlePeriph.NotificationService
